import NetConsole.Bus.Value
import NetConsole.Number.Shortest
import NetConsole.Text.Quoted
import NetConsole.Text.Utf8

namespace NetConsole.Bus

open NetConsole.Text (debugQuote hexDigit)

def byteHex (n : UInt8) : String :=
  String.ofList ['0', 'x', hexDigit (n.toNat / 16), hexDigit (n.toNat % 16)]

def label (annotate : Bool) (word : String) : String := if annotate then word ++ " " else ""

def byteOf? : Value → Option UInt8
  | .byte n => some n
  | _ => none

def byteString? (items : List Value) : Option (List UInt8) :=
  match items.getLast? with
  | some last =>
    if last.isZeroByte && !items.dropLast.any Value.isZeroByte then
      some (items.dropLast.filterMap byteOf?)
    else none
  | none => none

def doubleText (x : Binary64) : String :=
  if x.isIntegral then x.positional ++ "." else x.positional

mutual

def Value.annotatedText (annotate : Bool) : Value → String
  | .byte n => label annotate "byte" ++ byteHex n
  | .bool b => toString b
  | .int16 n => label annotate "int16" ++ toString n.toInt
  | .uint16 n => label annotate "uint16" ++ toString n.toNat
  | .int32 n => toString n.toInt
  | .uint32 n => label annotate "uint32" ++ toString n.toNat
  | .int64 n => label annotate "int64" ++ toString n.toInt
  | .uint64 n => label annotate "uint64" ++ toString n.toNat
  | .double x => doubleText x
  | .string s => debugQuote s
  | .objectPath p => label annotate "objectpath" ++ debugQuote p
  | .signature s => label annotate "signature" ++ debugQuote s.text
  | .variant v => "<" ++ v.annotatedText true ++ ">"
  | .array elem [] => (if annotate then "@" ++ (Signature.array elem).text ++ " " else "") ++ "[]"
  | .array _ items =>
    match byteString? items with
    | some bytes => "b" ++ debugQuote (Text.lossy bytes)
    | none => "[" ++ ", ".intercalate (itemTexts annotate items) ++ "]"
  | .dict key value [] =>
    (if annotate then "@" ++ (Signature.dict key value).text ++ " " else "") ++ "\x7b\x7d"
  | .dict _ _ entries => "\x7b" ++ ", ".intercalate (entryTexts annotate entries) ++ "\x7d"
  | .struct [] => "()"
  | .struct [f] => "(" ++ f.annotatedText annotate ++ ",)"
  | .struct fields => "(" ++ ", ".intercalate (fieldTexts annotate fields) ++ ")"

def itemTexts (annotate : Bool) : List Value → List String
  | [] => []
  | v :: rest => v.annotatedText annotate :: itemTexts false rest

def entryTexts (annotate : Bool) : List (Value × Value) → List String
  | [] => []
  | (k, v) :: rest =>
    (k.annotatedText annotate ++ ": " ++ v.annotatedText annotate) :: entryTexts false rest

def fieldTexts (annotate : Bool) : List Value → List String
  | [] => []
  | v :: rest => v.annotatedText annotate :: fieldTexts annotate rest

end

def Value.plainText : Value → String
  | .string s => s
  | .bool b => toString b
  | .byte n => toString n.toNat
  | .int16 n => toString n.toInt
  | .uint16 n => toString n.toNat
  | .int32 n => toString n.toInt
  | .uint32 n => toString n.toNat
  | .int64 n => toString n.toInt
  | .uint64 n => toString n.toNat
  | .double x => x.positional
  | .objectPath p => p
  | .variant v => v.plainText
  | v => v.annotatedText true

end NetConsole.Bus
