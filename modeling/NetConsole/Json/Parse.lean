import NetConsole.Json.Basic
import NetConsole.Number.Scale

/-! Reading JSON text (RFC 8259) as a strict reader that reports the line and byte column where
it stopped. The reader is total: every loop reads a character before it calls itself again, so
a budget of three calls per character ends it. -/

namespace NetConsole.Json

inductive Fault where
  | eofInList
  | eofInObject
  | eofInString
  | eofInValue
  | expectedColon
  | expectedListCommaOrEnd
  | expectedObjectCommaOrEnd
  | expectedIdent
  | expectedValue
  | invalidEscape
  | invalidNumber
  | numberOutOfRange
  | controlCharacter
  | keyMustBeString
  | loneLeadingSurrogate
  | trailingComma
  | trailingCharacters
  | unexpectedEndOfHexEscape
  | recursionLimit
  deriving DecidableEq, Repr

def Fault.text : Fault → String
  | .eofInList => "EOF while parsing a list"
  | .eofInObject => "EOF while parsing an object"
  | .eofInString => "EOF while parsing a string"
  | .eofInValue => "EOF while parsing a value"
  | .expectedColon => "expected \x60:\x60"
  | .expectedListCommaOrEnd => "expected \x60,\x60 or \x60]\x60"
  | .expectedObjectCommaOrEnd => "expected \x60,\x60 or \x60\x7d\x60"
  | .expectedIdent => "expected ident"
  | .expectedValue => "expected value"
  | .invalidEscape => "invalid escape"
  | .invalidNumber => "invalid number"
  | .numberOutOfRange => "number out of range"
  | .controlCharacter => "control character (\\u0000-\\u001F) found while parsing a string"
  | .keyMustBeString => "key must be a string"
  | .loneLeadingSurrogate => "lone leading surrogate in hex escape"
  | .trailingComma => "trailing comma"
  | .trailingCharacters => "trailing characters"
  | .unexpectedEndOfHexEscape => "unexpected end of hex escape"
  | .recursionLimit => "recursion limit exceeded"

structure ReadError where
  fault : Fault
  line : Nat
  column : Nat
  deriving DecidableEq, Repr

def ReadError.message (e : ReadError) : String :=
  e.fault.text ++ " at line " ++ toString e.line ++ " column " ++ toString e.column

/-- Where the reader stands: the characters left, and the line and the byte column of the end of
what it has read. -/
structure Cursor where
  rest : List Char
  line : Nat
  column : Nat

namespace Cursor

def start (text : String) : Cursor := ⟨text.toList, 1, 0⟩

def next (c : Cursor) : Cursor :=
  match c.rest with
  | [] => c
  | '\n' :: r => ⟨r, c.line + 1, 0⟩
  | ch :: r => ⟨r, c.line, c.column + ch.utf8Size⟩

def skipBytes (c : Cursor) (n : Nat) : Cursor :=
  go c.rest c.line c.column n
where
  go : List Char → Nat → Nat → Nat → Cursor
    | rest, line, column, 0 => ⟨rest, line, column⟩
    | [], line, column, _ + 1 => ⟨[], line, column⟩
    | ch :: r, line, column, n + 1 =>
      if ch == '\n' then go r (line + 1) 0 n
      else if ch.utf8Size ≤ n + 1 then go r line (column + ch.utf8Size) (n + 1 - ch.utf8Size)
      else ⟨r, line, column + n + 1⟩

def bytesLeft (c : Cursor) : Nat := c.rest.foldl (fun n ch => n + ch.utf8Size) 0

def toEnd (c : Cursor) : Cursor := c.skipBytes c.bytesLeft

def skipBlanks (c : Cursor) : Cursor :=
  let rest := c.rest.dropWhile fun ch => ch == ' ' || ch == '\t' || ch == '\n' || ch == '\r'
  c.skipBytes (c.rest.length - rest.length)

def here (c : Cursor) (f : Fault) : ReadError := ⟨f, c.line, c.column⟩

def ahead (c : Cursor) (f : Fault) : ReadError :=
  match c.rest with
  | [] => ⟨f, c.line, c.column⟩
  | '\n' :: _ => ⟨f, c.line + 1, 0⟩
  | _ :: _ => ⟨f, c.line, c.column + 1⟩

end Cursor

abbrev Reading (α : Type) := Except ReadError (α × Cursor)

def digitOf? (c : Char) : Option Nat := if c.isDigit then some (c.toNat - '0'.toNat) else none

def hexDigit? (c : Char) : Option Nat :=
  if '0' ≤ c ∧ c ≤ '9' then some (c.toNat - '0'.toNat)
  else if 'a' ≤ c ∧ c ≤ 'f' then some (c.toNat - 'a'.toNat + 10)
  else if 'A' ≤ c ∧ c ≤ 'F' then some (c.toNat - 'A'.toNat + 10)
  else none

def wordMax : Nat := 18446744073709551615

def exponentMax : Nat := 2147483647

def saturate (e : Int) : Int := max (-(exponentMax : Int) - 1) (min e exponentMax)

def scaled (negative : Bool) (significand : Nat) (exponent : Int) (c : Cursor) : Reading Json :=
  match Binary64.scaleByTen significand exponent with
  | some x => .ok (.double (if negative then x.negate else x), c)
  | none => .error (c.here .numberOutOfRange)

def skipDigits (c : Cursor) : Cursor :=
  c.skipBytes (c.rest.length - (c.rest.dropWhile Char.isDigit).length)

/-- The digits of an exponent that ran past the 32-bit range: a zero when it is negative or the
significand is zero, else a refusal. -/
def exponentOverflow (negative zeroSignificand positiveExponent : Bool) (c : Cursor) :
    Reading Json :=
  if !zeroSignificand && positiveExponent then .error (c.here .numberOutOfRange)
  else .ok (.double (Binary64.zero negative), skipDigits c)

/-- The digits of an exponent after its first, `e` so far, of a number whose digits are
`significand * 10^start`. -/
def exponentDigits (negative : Bool) (significand : Nat) (start : Int) (positive : Bool) :
    Nat → Nat → Cursor → Reading Json
  | fuel + 1, e, c =>
    match c.rest.head? >>= digitOf? with
    | some d =>
      if e * 10 + d > exponentMax then exponentOverflow negative (significand == 0) positive c.next
      else exponentDigits negative significand start positive fuel (e * 10 + d) c.next
    | none => scaled negative significand (saturate (if positive then start + e else start - e)) c
  | 0, e, c => scaled negative significand (saturate (if positive then start + e else start - e)) c

def exponentPart (negative : Bool) (significand : Nat) (start : Int) (c : Cursor) : Reading Json :=
  let c := c.next
  let (positive, c) := match c.rest with
    | '+' :: _ => (true, c.next)
    | '-' :: _ => (false, c.next)
    | _ => (true, c)
  match c.rest with
  | [] => .error (c.here .eofInValue)
  | ch :: _ =>
    match digitOf? ch with
    | some d => exponentDigits negative significand start positive c.rest.length d c.next
    | none => .error (c.next.here .invalidNumber)

def afterDigits (negative : Bool) (significand : Nat) (exponent : Int) (c : Cursor) :
    Reading Json :=
  match c.rest with
  | 'e' :: _ => exponentPart negative significand exponent c
  | 'E' :: _ => exponentPart negative significand exponent c
  | _ => scaled negative significand exponent c

/-- The digits of a fraction, `taken` of them read into the significand so far; once the next
would not fit, the rest are dropped. -/
def fractionDigits (negative : Bool) (start : Int) : Nat → Nat → Nat → Cursor → Reading Json
  | fuel + 1, significand, taken, c =>
    match c.rest.head? >>= digitOf? with
    | some d =>
      if significand * 10 + d > wordMax then
        afterDigits negative significand (start - taken) (skipDigits c)
      else fractionDigits negative start fuel (significand * 10 + d) (taken + 1) c.next
    | none =>
      if taken = 0 then
        .error (c.ahead (if c.rest.isEmpty then .eofInValue else .invalidNumber))
      else afterDigits negative significand (start - taken) c
  | 0, significand, taken, c => afterDigits negative significand (start - taken) c

def fraction (negative : Bool) (significand : Nat) (start : Int) (c : Cursor) : Reading Json :=
  fractionDigits negative start c.rest.length significand 0 c.next

def longInteger (negative : Bool) (significand : Nat) : Nat → Nat → Cursor → Reading Json
  | fuel + 1, exponent, c =>
    match c.rest with
    | ch :: _ =>
      if ch.isDigit then longInteger negative significand fuel (exponent + 1) c.next
      else if ch == '.' then fraction negative significand exponent c
      else afterDigits negative significand exponent c
    | [] => scaled negative significand exponent c
  | 0, exponent, c => afterDigits negative significand exponent c

/-- A number whose integer part fits 64 bits. Without a fraction or an exponent it stays an
exact integer: unsigned, or when negative signed; `-0` and a more negative integer become
doubles. -/
def afterInteger (negative : Bool) (significand : Nat) (c : Cursor) : Reading Json :=
  match c.rest with
  | '.' :: _ => fraction negative significand 0 c
  | 'e' :: _ => exponentPart negative significand 0 c
  | 'E' :: _ => exponentPart negative significand 0 c
  | _ =>
    if !negative then .ok (.int significand, c)
    else if significand = 0 then .ok (.double (Binary64.zero true), c)
    else if significand ≤ Nat.pow 2 63 then .ok (.int (-(significand : Int)), c)
    else .ok (.double (Binary64.ofDecimal true significand 0), c)

def integerDigits (negative : Bool) : Nat → Nat → Cursor → Reading Json
  | fuel + 1, significand, c =>
    match c.rest.head? >>= digitOf? with
    | some d =>
      if significand * 10 + d > wordMax then longInteger negative significand c.rest.length 0 c
      else integerDigits negative fuel (significand * 10 + d) c.next
    | none => afterInteger negative significand c
  | 0, significand, c => afterInteger negative significand c

def number (negative : Bool) (c : Cursor) : Reading Json :=
  match c.rest with
  | [] => .error (c.here .eofInValue)
  | '0' :: r =>
    if (r.head?.map Char.isDigit).getD false then .error (c.next.ahead .invalidNumber)
    else afterInteger negative 0 c.next
  | ch :: _ =>
    match digitOf? ch with
    | some d => integerDigits negative c.rest.length d c.next
    | none => .error (c.next.here .invalidNumber)

def hexEscape (c : Cursor) : Reading Nat :=
  if c.bytesLeft < 4 then .error (c.toEnd.here .eofInString)
  else
    match c.rest with
    | a :: b :: d :: e :: r =>
      match hexDigit? a, hexDigit? b, hexDigit? d, hexDigit? e with
      | some w, some x, some y, some z =>
        .ok (((w * 16 + x) * 16 + y) * 16 + z, ⟨r, c.line, c.column + 4⟩)
      | _, _, _, _ => .error ((c.skipBytes 4).here .invalidEscape)
    | _ => .error ((c.skipBytes 4).here .invalidEscape)

def isLeadingSurrogate (n : Nat) : Bool := 0xD800 ≤ n && n < 0xDC00

def isTrailingSurrogate (n : Nat) : Bool := 0xDC00 ≤ n && n < 0xE000

/-- The character of a `\u` escape, at its first hex digit: a leading surrogate must be followed
by an escaped trailing one. -/
def unicodeEscape (c : Cursor) : Except ReadError (Char × Cursor) := do
  let (n, c) ← hexEscape c
  if isTrailingSurrogate n then throw (c.here .loneLeadingSurrogate)
  if !isLeadingSurrogate n then return (Char.ofNat n, c)
  let c ← match c.rest with
    | [] => throw (c.here .eofInString)
    | '\\' :: _ => pure c.next
    | _ :: _ => throw (c.next.here .unexpectedEndOfHexEscape)
  let c ← match c.rest with
    | [] => throw (c.here .eofInString)
    | 'u' :: _ => pure c.next
    | _ :: _ => throw (c.next.here .unexpectedEndOfHexEscape)
  let (low, c) ← hexEscape c
  if !isTrailingSurrogate low then throw (c.here .loneLeadingSurrogate)
  return (Char.ofNat (0x10000 + (n - 0xD800) * 0x400 + (low - 0xDC00)), c)

def escape (c : Cursor) : Reading Char :=
  match c.rest with
  | [] => .error (c.here .eofInString)
  | ch :: _ =>
    let c' := c.next
    match ch with
    | '"' => .ok ('"', c')
    | '\\' => .ok ('\\', c')
    | '/' => .ok ('/', c')
    | 'b' => .ok ('\x08', c')
    | 'f' => .ok ('\x0c', c')
    | 'n' => .ok ('\n', c')
    | 'r' => .ok ('\r', c')
    | 't' => .ok ('\t', c')
    | 'u' => unicodeEscape c'
    | _ => .error (c'.here .invalidEscape)

/-- The body of a string up to its closing quote, escapes undone; `acc` holds what is read,
last character first. -/
def stringBody : Nat → List Char → Cursor → Reading String
  | 0, _, c => .error (c.toEnd.here .eofInString)
  | fuel + 1, acc, c =>
    match c.rest with
    | [] => .error (c.here .eofInString)
    | '"' :: _ => .ok (String.ofList acc.reverse, c.next)
    | '\\' :: _ =>
      match escape c.next with
      | .ok (ch, c') => stringBody fuel (ch :: acc) c'
      | .error e => .error e
    | ch :: _ =>
      if ch.toNat < 0x20 then .error (c.next.here .controlCharacter)
      else stringBody fuel (ch :: acc) c.next

def string (c : Cursor) : Reading String := stringBody c.rest.length [] c.next

def word (letters : List Char) (result : Json) (c : Cursor) : Reading Json :=
  match letters with
  | [] => .ok (result, c)
  | l :: ls =>
    match c.rest with
    | [] => .error (c.here .eofInValue)
    | ch :: _ => if ch == l then word ls result c.next else .error (c.next.here .expectedIdent)

def nestingLimit : Nat := 128

mutual

def value : Nat → Nat → Cursor → Reading Json
  | 0, _, c => .error (c.toEnd.here .eofInValue)
  | fuel + 1, depth, c =>
    let c := c.skipBlanks
    match c.rest with
    | [] => .error (c.ahead .eofInValue)
    | 'n' :: _ => word ['u', 'l', 'l'] .null c.next
    | 't' :: _ => word ['r', 'u', 'e'] (.bool true) c.next
    | 'f' :: _ => word ['a', 'l', 's', 'e'] (.bool false) c.next
    | '-' :: _ => number true c.next
    | '"' :: _ => (string c).map fun (s, c') => (.str s, c')
    | '[' :: _ =>
      if depth + 1 ≥ nestingLimit then .error (c.ahead .recursionLimit)
      else elements fuel (depth + 1) true [] c.next
    | '{' :: _ =>
      if depth + 1 ≥ nestingLimit then .error (c.ahead .recursionLimit)
      else members fuel (depth + 1) true [] c.next
    | ch :: _ => if ch.isDigit then number false c else .error (c.ahead .expectedValue)

def elements : Nat → Nat → Bool → List Json → Cursor → Reading Json
  | 0, _, _, _, c => .error (c.toEnd.here .eofInList)
  | fuel + 1, depth, first, acc, c =>
    let c := c.skipBlanks
    match c.rest with
    | [] => .error (c.ahead .eofInList)
    | ']' :: _ => .ok (.arr acc.reverse, c.next)
    | ch :: _ =>
      let item := fun (c : Cursor) =>
        match value fuel depth c with
        | .ok (v, c') => elements fuel depth false (v :: acc) c'
        | .error e => .error e
      if first then item c
      else if ch == ',' then
        let c := c.next.skipBlanks
        match c.rest with
        | ']' :: _ => .error (c.ahead .trailingComma)
        | [] => .error (c.ahead .eofInValue)
        | _ => item c
      else .error (c.ahead .expectedListCommaOrEnd)

def members : Nat → Nat → Bool → List (String × Json) → Cursor → Reading Json
  | 0, _, _, _, c => .error (c.toEnd.here .eofInObject)
  | fuel + 1, depth, first, acc, c =>
    let c := c.skipBlanks
    match c.rest with
    | '}' :: _ => .ok (.obj acc.reverse, c.next)
    | [] => .error (c.ahead .eofInObject)
    | ch :: _ =>
      let c? : Except ReadError Cursor :=
        if ch == ',' && !first then .ok c.next.skipBlanks
        else if first then .ok c
        else .error (c.ahead .expectedObjectCommaOrEnd)
      match c? with
      | .error e => .error e
      | .ok c =>
        match c.rest with
        | '"' :: _ =>
          match string c with
          | .error e => .error e
          | .ok (k, c) =>
            let c := c.skipBlanks
            match c.rest with
            | ':' :: _ =>
              match value fuel depth c.next with
              | .ok (v, c') => members fuel depth false ((k, v) :: acc) c'
              | .error e => .error e
            | [] => .error (c.ahead .eofInObject)
            | _ :: _ => .error (c.ahead .expectedColon)
        | '}' :: _ => .error (c.ahead .trailingComma)
        | [] => .error (c.ahead .eofInValue)
        | _ :: _ => .error (c.ahead .keyMustBeString)

end

def parse (text : String) : Except ReadError Json := do
  let c := Cursor.start text
  let (v, c) ← value (3 * c.rest.length + 3) 0 c
  let c := c.skipBlanks
  if c.rest.isEmpty then pure v else throw (c.ahead .trailingCharacters)

end NetConsole.Json
