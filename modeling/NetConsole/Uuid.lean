import NetConsole.Text.Quoted

namespace NetConsole

structure Uuid where
  bits : BitVec 128
  deriving DecidableEq, Repr, Inhabited

inductive UuidError where
  | length (found : Nat)
  | character (found : Char) (index : Nat)
  | groupCount (found : Nat)
  | groupLength (group expected found : Nat)
  deriving DecidableEq, Repr

namespace UuidError

def message : UuidError → String
  | .length n => s!"invalid length: found {n}"
  | .character c i => "invalid character: found `" ++ String.singleton c ++ s!"` at {i}"
  | .groupCount n => s!"invalid group count: expected 5, found {n}"
  | .groupLength g e n => s!"invalid group length in group {g}: expected {e}, found {n}"

end UuidError

namespace Uuid

def hexValue? (c : Char) : Option Nat :=
  if '0' ≤ c ∧ c ≤ '9' then some (c.toNat - '0'.toNat)
  else if 'a' ≤ c ∧ c ≤ 'f' then some (c.toNat - 'a'.toNat + 10)
  else if 'A' ≤ c ∧ c ≤ 'F' then some (c.toNat - 'A'.toNat + 10)
  else none

def isHex (c : Char) : Bool := (hexValue? c).isSome

def digitsValue (cs : List Char) : Nat :=
  cs.foldl (fun acc c => acc * 16 + (hexValue? c).getD 0) 0

def ofDigits (cs : List Char) : Uuid := ⟨BitVec.ofNat 128 (digitsValue cs)⟩

def hyphenPositions : List Nat := [8, 13, 18, 23]

def hyphenatedDigits? (cs : List Char) : Option (List Char) :=
  if cs.length = 36 ∧
      (List.range 36).all (fun i =>
        match cs[i]? with
        | some c => if i ∈ hyphenPositions then c == '-' else isHex c
        | none => false) then
    some (cs.filter (· != '-'))
  else none

def urnPrefix : List Char := "urn:uuid:".toList

def dropUrn? (cs : List Char) : Option (List Char) :=
  if (cs.take 9).map Char.toLower == urnPrefix then some (cs.drop 9) else none

def dropBraces? (cs : List Char) : Option (List Char) :=
  match cs, cs.getLast? with
  | '{' :: rest, some '}' => if rest.isEmpty then none else some rest.dropLast
  | _, _ => none

def ofText? (s : String) : Option Uuid :=
  let cs := s.toList
  let n := s.utf8ByteSize
  if n = 32 then
    if cs.length = 32 ∧ cs.all isHex then some (ofDigits cs) else none
  else if n = 36 then (hyphenatedDigits? cs).map ofDigits
  else if n = 38 then (dropBraces? cs >>= hyphenatedDigits?).map ofDigits
  else if n = 45 then (dropUrn? cs >>= hyphenatedDigits?).map ofDigits
  else none

/-- What a scan of the characters from the left has seen: the hyphens, and the positions of the
first four measured from where the scan began. -/
structure Scan where
  hyphens : Nat := 0
  positions : List Nat := []

/-- The first character that is neither a hex digit nor a hyphen, with its byte index, or what
the scan saw. `index` is the byte index of the first character in the text reported on,
`offset` the index of the first character inside the bounds. -/
def scanChars (offset : Nat) : List Char → Nat → Scan → Except UuidError Scan
  | [], _, scan => .ok scan
  | c :: rest, index, scan =>
    if c == '-' then
      let scan' : Scan :=
        { hyphens := scan.hyphens + 1
          positions := if scan.hyphens < 4 then scan.positions ++ [index - offset]
            else scan.positions }
      scanChars offset rest (index + c.utf8Size) scan'
    else if isHex c then scanChars offset rest (index + c.utf8Size) scan
    else .error (.character c index)

def misplacedGroup : List Nat → List Nat → List Nat → Nat → Option UuidError
  | h :: hs, e :: es, s :: ss, group =>
    if h ≠ e then some (.groupLength group (e - s) (h - s))
    else misplacedGroup hs es ss (group + 1)
  | _, _, _, _ => none

/-- Why the text `s` is refused. `hyphenated` says that its length already called for the
hyphenated form, and then `s` is that form's 36 characters without braces or prefix. -/
def diagnose (hyphenated : Bool) (s : String) : UuidError :=
  let n := s.utf8ByteSize
  if n = 0 ∨ 45 < n then .length n
  else
    let cs := s.toList
    -- outside the hyphenated case, braces or a prefix bound the digits and call for hyphens
    let (inner, offset, bounded) :=
      if hyphenated then (cs, 0, true)
      else match dropBraces? cs with
        | some rest => (rest, 1, true)
        | none =>
          if 9 ≤ n then
            match dropUrn? cs with
            | some rest => (rest, 9, true)
            | none => (cs, 0, false)
          else (cs, 0, false)
    match scanChars offset inner offset {} with
    | .error e => e
    | .ok scan =>
      if !bounded && scan.hyphens = 0 then .length n
      else if scan.hyphens ≠ 4 then .groupCount (scan.hyphens + 1)
      else
        match misplacedGroup scan.positions hyphenPositions [0, 9, 14, 19] 0 with
        | some e => e
        | none => .groupLength 4 12 (n - 24)

def parse (s : String) : Except UuidError Uuid :=
  match ofText? s with
  | some u => .ok u
  | none =>
    let cs := s.toList
    let n := s.utf8ByteSize
    if n = 36 then .error (diagnose true s)
    else if n = 38 ∧ (dropBraces? cs).isSome then
      .error (diagnose true (String.ofList ((dropBraces? cs).getD [])))
    else if n = 45 ∧ (dropUrn? cs).isSome then
      .error (diagnose true (String.ofList ((dropUrn? cs).getD [])))
    else .error (diagnose false s)

def digits (u : Uuid) : List Char :=
  (List.range 32).reverse.map fun i => Text.hexDigit (u.bits.toNat / Nat.pow 16 i % 16)

def text (u : Uuid) : String :=
  let ds := u.digits
  String.ofList (ds.take 8 ++ '-' :: (ds.drop 8).take 4 ++ '-' :: (ds.drop 12).take 4 ++
    '-' :: (ds.drop 16).take 4 ++ '-' :: ds.drop 20)

instance : ToString Uuid := ⟨text⟩

end Uuid

end NetConsole
