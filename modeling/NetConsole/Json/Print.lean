import NetConsole.Json.Basic
import NetConsole.Number.Shortest

namespace NetConsole.Json

def hexDigitChar (n : Nat) : Char :=
  if n < 10 then Char.ofNat ('0'.toNat + n) else Char.ofNat ('a'.toNat + n - 10)

def escapeChar (c : Char) : List Char :=
  if c == '"' then ['\\', '"']
  else if c == '\\' then ['\\', '\\']
  else if c == '\n' then ['\\', 'n']
  else if c == '\r' then ['\\', 'r']
  else if c == '\t' then ['\\', 't']
  else if c == '\x08' then ['\\', 'b']
  else if c == '\x0c' then ['\\', 'f']
  else if c.toNat < 0x20 then
    ['\\', 'u', '0', '0', hexDigitChar (c.toNat / 16), hexDigitChar (c.toNat % 16)]
  else [c]

def quote (s : String) : String :=
  "\"" ++ String.ofList (s.toList.flatMap escapeChar) ++ "\""

/-- The digits of a decimal with a point: positional with `.0` for whole numbers below 10^16,
positional for other magnitudes from 10^-5 up to 10^16, and otherwise one digit, the rest
after a point, and `e` with the power of ten. Zero is `0.0`. -/
def decimalText (negative : Bool) (mantissa : Nat) (exponent : Int) : String :=
  let sign := if negative then "-" else ""
  let ds := (toString mantissa).toList
  let len : Int := ds.length
  let kk := len + exponent
  let body :=
    if mantissa = 0 then "0.0"
    else if 0 ≤ exponent ∧ kk ≤ 16 then
      String.ofList (ds ++ List.replicate exponent.toNat '0') ++ ".0"
    else if 0 < kk ∧ kk ≤ 16 then
      String.ofList (ds.take kk.toNat ++ '.' :: ds.drop kk.toNat)
    else if -5 < kk ∧ kk ≤ 0 then
      String.ofList ('0' :: '.' :: List.replicate (-kk).toNat '0' ++ ds)
    else
      let mark := "e" ++ toString (kk - 1)
      match ds with
      | [d] => String.ofList [d] ++ mark
      | d :: rest => String.ofList (d :: '.' :: rest) ++ mark
      | [] => "0.0"
  sign ++ body

/-- A double as its shortest decimal; a word that is not finite has no JSON number and
writes as `null`. -/
def doubleText (x : Binary64) : String :=
  if x.isFinite then
    let d := x.shortest
    decimalText x.isNegative d.digits d.exponent
  else "null"

mutual

def compact : Json → String
  | .null => "null"
  | .bool b => if b then "true" else "false"
  | .int n => toString n
  | .double x => doubleText x
  | .str s => quote s
  | .arr xs => "[" ++ compactItems xs ++ "]"
  | .obj fs => "\x7b" ++ compactFields fs ++ "\x7d"

def compactItems : List Json → String
  | [] => ""
  | [x] => compact x
  | x :: xs => compact x ++ "," ++ compactItems xs

def compactFields : List (String × Json) → String
  | [] => ""
  | [(k, v)] => quote k ++ ":" ++ compact v
  | (k, v) :: fs => quote k ++ ":" ++ compact v ++ "," ++ compactFields fs

end

def indentText (depth : Nat) : String := String.ofList (List.replicate (2 * depth) ' ')

mutual

/-- The text of a value at nesting `depth`, one element or member per line, indented by two
spaces a level; an empty array or object stays on its line. -/
def pretty (depth : Nat) : Json → String
  | .arr [] => "[]"
  | .arr (x :: xs) =>
    "[\n" ++ prettyItems (depth + 1) (x :: xs) ++ "\n" ++ indentText depth ++ "]"
  | .obj [] => "\x7b\x7d"
  | .obj (f :: fs) =>
    "\x7b\n" ++ prettyFields (depth + 1) (f :: fs) ++ "\n" ++ indentText depth ++ "\x7d"
  | .null => "null"
  | .bool b => if b then "true" else "false"
  | .int n => toString n
  | .double x => doubleText x
  | .str s => quote s

def prettyItems (depth : Nat) : List Json → String
  | [] => ""
  | [x] => indentText depth ++ pretty depth x
  | x :: xs => indentText depth ++ pretty depth x ++ ",\n" ++ prettyItems depth xs

def prettyFields (depth : Nat) : List (String × Json) → String
  | [] => ""
  | [(k, v)] => indentText depth ++ quote k ++ ": " ++ pretty depth v
  | (k, v) :: fs =>
    indentText depth ++ quote k ++ ": " ++ pretty depth v ++ ",\n" ++ prettyFields depth fs

end

end NetConsole.Json
