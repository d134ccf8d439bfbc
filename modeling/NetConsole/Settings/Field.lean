import NetConsole.Settings.Table
import NetConsole.Bus.Value
import NetConsole.Error

namespace NetConsole

open NetConsole.Bus (Value)

abbrev RawSection := Table Value

abbrev RawSettings := Table RawSection

namespace Bus.Value

def unwrap : Value → Value
  | .variant v => v
  | v => v

def asString? : Value → Option String
  | .string s => some s
  | _ => none

def asBool? : Value → Option Bool
  | .bool b => some b
  | _ => none

def asInt32? : Value → Option Int
  | .int32 n => some n.toInt
  | _ => none

def asUInt32? : Value → Option Nat
  | .uint32 n => some n.toNat
  | _ => none

def asUInt64? : Value → Option Nat
  | .uint64 n => some n.toNat
  | _ => none

def asByte? : Value → Option UInt8
  | .byte n => some n
  | _ => none

def itemsAs? {α : Type} (read : Value → Option α) : Value → Option (List α)
  | .array _ items => items.mapM fun item => read item.unwrap
  | _ => none

def asBytes? : Value → Option (List UInt8) := itemsAs? asByte?

def asStrings? : Value → Option (List String) := itemsAs? asString?

def asSection? : Value → Option RawSection
  | .dict _ _ entries => entries.mapM fun (k, v) => k.unwrap.asString?.map fun name => (name, v.unwrap)
  | _ => none

def asSections? : Value → Option (List RawSection) := itemsAs? asSection?

end Bus.Value

namespace RawSection

def fieldName (key : String) (name : Option String) : String :=
  name.getD (String.ofList (key.toList.map fun c => if c == '-' then ' ' else c))

def lookup {α : Type} (s : Option RawSection) (key : String) (name : Option String)
    (read : Value → Option α) : Except Error (Option α) :=
  match s.bind (·.get? key) with
  | none => .ok none
  | some v =>
    match read v with
    | some a => .ok (some a)
    | none => .error (.unexpectedType (fieldName key name) v.signatureOf.text)

def required {α : Type} (s : Option RawSection) (key : String) (name : Option String)
    (read : Value → Option α) : Except Error α := do
  match ← lookup s key name read with
  | some a => pure a
  | none => throw (.missingField (fieldName key name))

def optional {α : Type} (s : Option RawSection) (key : String) (name : Option String)
    (read : Value → Option α) (default : α) : Except Error α := do
  return (← lookup s key name read).getD default

end RawSection

end NetConsole
