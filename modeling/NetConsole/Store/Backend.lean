import NetConsole.Profile.Decode
import NetConsole.Settings.Merge
import NetConsole.Form.Translate

/-! The profile store over a settings backend. It runs in `EStateM Error σ` over the backend's
state, so a failed operation keeps the state it reached. -/

namespace NetConsole

class SettingsBackend (σ : Type) where
  listConnections : EStateM Error σ (List String)
  connectionByUuid : Uuid → EStateM Error σ String
  connectionMeta : String → EStateM Error σ ProfileMeta
  getSettings : String → EStateM Error σ RawSettings
  getSecrets : String → String → EStateM Error σ RawSettings
  update2 : String → RawSettings → UpdateFlags → EStateM Error σ Unit
  activateConnection : String → EStateM Error σ String
  reloadConnections : EStateM Error σ Bool
  note : LogRecord → σ → σ

namespace ProfileStore

variable {σ : Type} [SettingsBackend σ]

open SettingsBackend

def logTarget : String := "nmconsole::api::profile_store"

def record (r : LogRecord) : EStateM Error σ Unit := modify (note r)

def records (rs : List LogRecord) : EStateM Error σ Unit := rs.forM record

def withContext {α : Type} (context : String) (m : EStateM Error σ α) : EStateM Error σ α :=
  tryCatch m fun e => throw (.context context e)

def dump (path : String) : EStateM Error σ ConnProfile := do
  record ⟨.debug, logTarget, "Reading connection profile " ++ path⟩
  let profileMeta ← connectionMeta path
  let raw ← withContext "couldn't get settings" (getSettings path)
  -- secrets that cannot be read leave the PSK empty
  let secrets ← if ProfileSettings.isWifiProfile raw then
      tryCatch (some <$> getSecrets path Setting.wifiSecurity) fun e => do
        record ⟨.warn, logTarget, "Couldn't read secrets of " ++ path ++ ": " ++ e.message⟩
        pure none
    else pure none
  records (ProfileSettings.decodeNotes raw secrets)
  match ProfileSettings.decode raw secrets with
  | .ok settings =>
    pure { unsaved := profileMeta.unsaved, flags := ⟨profileMeta.flags.toUInt32⟩,
           filename := profileMeta.filename, settings := settings }
  | .error e => throw e

def get (uuid : Uuid) : EStateM Error σ ConnProfile := do
  let path ← connectionByUuid uuid
  withContext ("couldn't dump connection profile " ++ uuid.text) (dump path)

/-- Every profile, by ID; profiles with equal IDs stay in path order. One profile that cannot be
read fails the whole list. -/
def list : EStateM Error σ (List ConnProfile) := do
  let paths ← withContext "couldn't list connection profiles" listConnections
  let profiles ← paths.mapM fun path =>
    withContext ("couldn't dump connection profile " ++ path) (dump path)
  return profiles.mergeSort fun a b => decide (a.settings.conn.id ≤ b.settings.conn.id)

def updateProfile (uuid : Uuid) (kind : UpdateKind) (us : Updates) : EStateM Error σ Unit := do
  let path ← connectionByUuid uuid
  let raw ← withContext "couldn't get settings" (getSettings path)
  records (RawSettings.mergeNotes raw us)
  update2 path (RawSettings.merge raw us) kind.flags

def update (uuid : Uuid) (kind : UpdateKind) (us : Updates) : EStateM Error σ Unit := do
  withContext ("couldn't update connection profile " ++ uuid.text) (updateProfile uuid kind us)
  record ⟨.info, logTarget,
    s!"Updated connection profile {uuid.text} ({kind.text}, {us.size} fields)"⟩

def activate (uuid : Uuid) : EStateM Error σ Unit := do
  let path ← connectionByUuid uuid
  let active ← withContext ("couldn't activate connection profile " ++ uuid.text)
    (activateConnection path)
  record ⟨.debug, logTarget, "Activated " ++ uuid.text ++ " as " ++ active⟩

def reload : EStateM Error σ Unit := do
  let ok ← withContext "couldn't reload connection profiles" reloadConnections
  if !ok then throw .reloadFailed

end ProfileStore

end NetConsole
