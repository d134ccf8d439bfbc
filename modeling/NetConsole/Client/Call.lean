import NetConsole.Client.Service
import NetConsole.Error

namespace NetConsole

namespace Bus.Value

def asInt64? : Value → Option Int
  | .int64 n => some n.toInt
  | _ => none

def asObjectPath? : Value → Option String
  | .objectPath p => some p
  | _ => none

def asObjectPaths? : Value → Option (List String) := itemsAs? asObjectPath?

def asCodePair? : Value → Option (Nat × Nat)
  | .struct [.uint32 a, .uint32 b] => some (a.toNat, b.toNat)
  | _ => none

end Bus.Value

namespace Client

open NetConsole.Bus (Value BusError)

variable {σ : Type} [NetworkService σ]

def call {α : Type} (context : String) (m : EStateM BusError σ α) : EStateM Error σ α :=
  EStateM.adaptExcept (Error.busCall context) m

def record (r : LogRecord) : EStateM Error σ Unit := modify (NetworkService.note r)

def debug (target message : String) : EStateM Error σ Unit := record ⟨.debug, target, message⟩

def within {α : Type} (context : String) (m : EStateM Error σ α) : EStateM Error σ α :=
  tryCatch m fun e => throw (.context context e)

def readAs {α : Type} (path : String) (iface : Interface) (name context : String)
    (as? : Value → Option α) : EStateM Error σ α := do
  let v ← call context (NetworkService.property path iface name)
  match as? v with
  | some a => pure a
  | none => throw (.busCall context (.failure ("property " ++ name ++ " has unexpected type " ++
      v.signatureOf.text)))

def isCancelled : EStateM Error σ Bool := do
  return NetworkService.cancelled (← get)

end Client

end NetConsole
