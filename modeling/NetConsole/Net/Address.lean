namespace NetConsole

inductive IpAddr where
  | v4 (a b c d : Nat)
  | v6 (groups : List Nat)
  deriving DecidableEq, Repr, Inhabited

namespace IpAddr

def isV4 : IpAddr → Bool
  | .v4 .. => true
  | .v6 _ => false

def digitIn (radix : Nat) (c : Char) : Option Nat :=
  if '0' ≤ c ∧ c ≤ '9' then
    let d := c.toNat - '0'.toNat
    if d < radix then some d else none
  else if radix = 16 ∧ 'a' ≤ c ∧ c ≤ 'f' then some (c.toNat - 'a'.toNat + 10)
  else if radix = 16 ∧ 'A' ≤ c ∧ c ≤ 'F' then some (c.toNat - 'A'.toNat + 10)
  else none

def leadingDigits (radix : Nat) : List Char → List Nat × List Char
  | [] => ([], [])
  | c :: rest =>
    match digitIn radix c with
    | some d => let (ds, r) := leadingDigits radix rest; (d :: ds, r)
    | none => ([], c :: rest)

def digitsValue (radix : Nat) (ds : List Nat) : Nat := ds.foldl (fun acc d => acc * radix + d) 0

def octetFront (cs : List Char) : Option (Nat × List Char) :=
  let (ds, rest) := leadingDigits 10 cs
  let v := digitsValue 10 ds
  if ds.isEmpty || ds.length > 3 || v > 255 || (ds.length > 1 && ds.head? == some 0) then none
  else some (v, rest)

def groupFront (cs : List Char) : Option (Nat × List Char) :=
  let (ds, rest) := leadingDigits 16 cs
  if ds.isEmpty || ds.length > 4 then none else some (digitsValue 16 ds, rest)

def dotted (cs : List Char) : Option (List Char) :=
  match cs with
  | '.' :: rest => some rest
  | _ => none

def v4Front (cs : List Char) : Option ((Nat × Nat × Nat × Nat) × List Char) := do
  let (a, cs) ← octetFront cs
  let (b, cs) ← dotted cs >>= octetFront
  let (c, cs) ← dotted cs >>= octetFront
  let (d, cs) ← dotted cs >>= octetFront
  some ((a, b, c, d), cs)

def afterColon (index : Nat) (cs : List Char) : Option (List Char) :=
  if index = 0 then some cs
  else match cs with
    | ':' :: rest => some rest
    | _ => none

/-- Up to `slots` colon-separated groups at the front, the last two possibly an IPv4 address:
the groups read, whether they ended in an IPv4 address, and the rest. `index` counts the groups
already read. -/
def groupsFront (limit : Nat) : Nat → Nat → List Nat → List Char → List Nat × Bool × List Char
  | 0, _, acc, cs => (acc, false, cs)
  | slots + 1, index, acc, cs =>
    let asV4 := if index + 1 < limit then afterColon index cs >>= v4Front else none
    match asV4 with
    | some ((a, b, c, d), rest) => (acc ++ [a * 256 + b, c * 256 + d], true, rest)
    | none =>
      match afterColon index cs >>= groupFront with
      | some (g, rest) => groupsFront limit slots (index + 1) (acc ++ [g]) rest
      | none => (acc, false, cs)

def v6Front (cs : List Char) : Option (List Nat × List Char) :=
  let (head, headV4, rest) := groupsFront 8 8 0 [] cs
  if head.length = 8 then some (head, rest)
  else if headV4 then none
  else
    match rest with
    | ':' :: ':' :: rest =>
      let limit := 8 - (head.length + 1)
      let (tail, _, rest) := groupsFront limit limit 0 [] rest
      some (head ++ List.replicate (8 - head.length - tail.length) 0 ++ tail, rest)
    | _ => none

def parse? (s : String) : Option IpAddr :=
  let cs := s.toList
  match v4Front cs with
  | some ((a, b, c, d), rest) => if rest.isEmpty then some (.v4 a b c d) else none
  | none =>
    match v6Front cs with
    | some (groups, []) => some (.v6 groups)
    | _ => none

def hexText (n : Nat) : String := String.ofList (Nat.toDigits 16 n)

def longestZeroRun (groups : List Nat) : Nat × Nat :=
  let step := fun (acc : (Nat × Nat) × (Nat × Nat) × Nat) (g : Nat) =>
    let (best, current, i) := acc
    if g == 0 then
      let current := if current.2 == 0 then (i, 1) else (current.1, current.2 + 1)
      let best := if current.2 > best.2 then current else best
      (best, current, i + 1)
    else (best, (0, 0), i + 1)
  (groups.foldl step ((0, 0), (0, 0), 0)).1

def groupsText (groups : List Nat) : String := ":".intercalate (groups.map hexText)

def text : IpAddr → String
  | .v4 a b c d => s!"{a}.{b}.{c}.{d}"
  | .v6 groups =>
    match groups with
    | [0, 0, 0, 0, 0, 0xffff, ab, cd] =>
      s!"::ffff:{ab / 256}.{ab % 256}.{cd / 256}.{cd % 256}"
    | _ =>
      let (start, len) := longestZeroRun groups
      if len > 1 then
        groupsText (groups.take start) ++ "::" ++ groupsText (groups.drop (start + len))
      else groupsText groups

end IpAddr

end NetConsole
