import NetConsole.Bus.Value
import NetConsole.Number.Shortest
import NetConsole.Json.Basic
import NetConsole.Text.Quoted

namespace NetConsole.Bus

open NetConsole (Json Binary64)

def intIn (lo hi : Int) : Json → Option Int
  | .int n => if lo ≤ n ∧ n ≤ hi then some n else none
  | _ => none

def doubleOf? : Json → Option Binary64
  | .int n => some (Binary64.ofDecimal (n < 0) n.natAbs 0)
  | .double x => some x
  | _ => none

def expected (place what : String) (sig : Signature) : String :=
  place ++ ": expected " ++ what ++ " for " ++ sig.text

def unsupported (place : String) (sig : Signature) : String :=
  place ++ ": unsupported signature " ++ sig.text

def badSignature (place text : String) : String :=
  place ++ ": bad signature " ++ Text.debugQuote text ++ ": Invalid signature"

def orRefuse {α : Type} (reason : String) : Option α → Except String α
  | some a => .ok a
  | none => .error reason

def basicOfJson (place : String) (sig : Signature) (j : Json) : Except String Value :=
  let integer := fun (lo hi : Int) (make : Int → Value) =>
    orRefuse (expected place "integer" sig) ((intIn lo hi j).map make)
  match sig with
  | .byte => integer 0 255 fun n => .byte n.toNat.toUInt8
  | .bool => match j with
    | .bool b => .ok (.bool b)
    | _ => .error (expected place "bool" sig)
  | .int16 => integer (-32768) 32767 fun n => .int16 (Int16.ofInt n)
  | .uint16 => integer 0 65535 fun n => .uint16 n.toNat.toUInt16
  | .int32 => integer (-2147483648) 2147483647 fun n => .int32 (Int32.ofInt n)
  | .uint32 => integer 0 4294967295 fun n => .uint32 n.toNat.toUInt32
  | .int64 => integer (-9223372036854775808) 9223372036854775807 fun n => .int64 (Int64.ofInt n)
  | .uint64 => integer 0 18446744073709551615 fun n => .uint64 n.toNat.toUInt64
  | .double => orRefuse (expected place "number" sig) ((doubleOf? j).map .double)
  | .string => orRefuse (expected place "string" sig) ((Json.str? j).map .string)
  | .objectPath => orRefuse (expected place "string" sig) ((Json.str? j).map .objectPath)
  | .signature => match j with
    | .str t => orRefuse (place ++ ": Invalid signature") ((Signature.parse? t).map .signature)
    | _ => .error (expected place "string" sig)
  | .variant => .error (expected place "object" sig)
  | .array _ | .dict _ _ | .struct _ => .error (expected place "list" sig)
  | .unit | .fd => .error (unsupported place sig)

mutual

def ofJsonAs (place : String) (sig : Signature) (j : Json) : Except String Value :=
  match sig, j with
  | .variant, .obj fields =>
    match Json.find? (.obj fields) "sig" with
    | some (.str text) =>
      match Signature.parse? text with
      | some inner => (valOf place inner fields).map .variant
      | none => .error (badSignature place text)
    | _ => .error (place ++ ": expected a signature text in sig")
  | .array elem, .arr items => (itemsAs place elem items).map (.array elem)
  | .dict key value, .arr items => (pairsAs place sig key value items).map fun ps =>
    .dict key value (Dict.ofPairs ps)
  | .struct sigs, .arr items =>
    if items.length = sigs.length then (fieldsAs place sigs items).map .struct
    else .error (expected place (toString sigs.length ++ " fields") sig)
  | sig, j => basicOfJson place sig j

def itemsAs (place : String) (elem : Signature) : List Json → Except String (List Value)
  | [] => .ok []
  | j :: rest => do
    let v ← ofJsonAs place elem j
    let vs ← itemsAs place elem rest
    pure (v :: vs)

def pairsAs (place : String) (sig key value : Signature) :
    List Json → Except String (List (Value × Value))
  | [] => .ok []
  | .arr [kj, vj] :: rest => do
    let k ← ofJsonAs place key kj
    let v ← ofJsonAs place value vj
    let ps ← pairsAs place sig key value rest
    pure ((k, v) :: ps)
  | _ :: _ => .error (expected place "[key, value] pairs" sig)

def fieldsAs (place : String) : List Signature → List Json → Except String (List Value)
  | s :: sigs, j :: rest => do
    let v ← ofJsonAs place s j
    let vs ← fieldsAs place sigs rest
    pure (v :: vs)
  | _, _ => .ok []

/-- The last field `val` of the object, read as a value of `sig`; an object without one reads as
`null` would. -/
def valOf (place : String) (sig : Signature) : List (String × Json) → Except String Value
  | [] => basicOfJson place sig .null
  | (name, j) :: rest =>
    if name = "val" && !rest.any (·.1 == "val") then ofJsonAs place sig j
    else valOf place sig rest

end

def ofFields (place : String) (fields : List (String × Json)) : Except String Value :=
  match Json.find? (.obj fields) "sig" with
  | some (.str text) =>
    match Signature.parse? text with
    | some sig => valOf place sig fields
    | none => .error (badSignature place text)
  | _ => .error (place ++ ": expected a signature text in sig")

def Value.ofJson (place : String) : Json → Except String Value
  | .obj fields => ofFields place fields
  | _ => .error (place ++ ": expected an object with sig and val")

def doubleJson (x : Binary64) : Json := .double x

mutual

def Value.valJson : Value → Json
  | .byte n => .int n.toNat
  | .bool b => .bool b
  | .int16 n => .int n.toInt
  | .uint16 n => .int n.toNat
  | .int32 n => .int n.toInt
  | .uint32 n => .int n.toNat
  | .int64 n => .int n.toInt
  | .uint64 n => .int n.toNat
  | .double x => doubleJson x
  | .string s => .str s
  | .objectPath p => .str p
  | .signature s => .str s.text
  | .variant v => .obj [("sig", .str v.signatureOf.text), ("val", v.valJson)]
  | .array _ items => .arr (itemsJson items)
  | .dict _ _ entries => .arr (entriesJson entries)
  | .struct fields => .arr (itemsJson fields)

def itemsJson : List Value → List Json
  | [] => []
  | v :: rest => v.valJson :: itemsJson rest

def entriesJson : List (Value × Value) → List Json
  | [] => []
  | (k, v) :: rest => .arr [k.valJson, v.valJson] :: entriesJson rest

end

def Value.toJson (v : Value) : Json := .obj [("sig", .str v.signatureOf.text), ("val", v.valJson)]

end NetConsole.Bus
