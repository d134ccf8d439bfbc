import NetConsole.Store.Backend

namespace NetConsole

inductive StoreStep where
  | get (uuid : Uuid)
  | list
  | update (uuid : Uuid) (selector : String) (form : Form)
  | activate (uuid : Uuid)
  | reload
  | raw (uuid : Uuid)  -- reads past the store, changing nothing

def resultState {ε σ α : Type} : EStateM.Result ε σ α → σ
  | .ok _ s => s
  | .error _ s => s

def resultOutcome {ε σ α : Type} : EStateM.Result ε σ α → Except ε α
  | .ok a _ => .ok a
  | .error e _ => .error e

namespace StoreStep

variable {σ : Type} [SettingsBackend σ]

def run : StoreStep → EStateM Error σ Unit
  | .get uuid => do let _ ← ProfileStore.get uuid
  | .list => do let _ ← ProfileStore.list
  | .update uuid selector form =>
    match Form.translateAs selector form with
    | .ok (kind, us) => ProfileStore.update uuid kind us
    | .error e => throw e
  | .activate uuid => ProfileStore.activate uuid
  | .reload => ProfileStore.reload
  | .raw _ => pure ()

/-- Runs the requests in turn, each from the state the one before it left, failed or not: the
outcome of each request, and the final state. -/
def runAll (s : σ) : List StoreStep → List (Except Error Unit) × σ
  | [] => ([], s)
  | step :: rest =>
    let result := step.run.run s
    let after := runAll (resultState result) rest
    (resultOutcome result :: after.1, after.2)

end StoreStep

end NetConsole
