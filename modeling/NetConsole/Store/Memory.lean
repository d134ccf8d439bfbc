import NetConsole.Store.Backend

namespace NetConsole

structure StoredProfile where
  settings : RawSettings
  secrets : Option RawSettings  -- none: reading the secrets fails
  lookupUuid : Option Uuid  -- none: the profile is never found
  profileMeta : ProfileMeta
  failing : List String
  deriving Inhabited

structure MemoryBackend where
  profiles : List StoredProfile
  reloadAnswer : Option Bool := some true  -- none: reloading fails
  listFails : Bool := false
  secretReads : Nat := 0
  submitted : List (UpdateFlags × RawSettings) := []
  activated : List String := []
  journal : List LogRecord := []
  deriving Inhabited

namespace MemoryBackend

def settingsPath (i : Nat) : String := "/org/freedesktop/NetworkManager/Settings/" ++ toString i

def paths (b : MemoryBackend) : List String := (List.range b.profiles.length).map fun i => settingsPath (i + 1)

def callFailure (call : String) : Error := .busCall "mock call failed" (.failure (call ++ " is not available"))

def indexOf? (b : MemoryBackend) (path : String) : Option Nat :=
  (List.range b.profiles.length).find? fun i => settingsPath (i + 1) == path

def profileFor (path call : String) : EStateM Error MemoryBackend (Nat × StoredProfile) := do
  let b ← get
  match b.indexOf? path with
  | none => throw (callFailure call)
  | some i =>
    match b.profiles[i]? with
    | none => throw (callFailure call)
    | some p => if p.failing.contains call then throw (callFailure call) else pure (i, p)

def lookupIndex? (b : MemoryBackend) (uuid : Uuid) : Option Nat :=
  (List.range b.profiles.length).find? fun i =>
    match b.profiles[i]? with
    | some p => p.lookupUuid == some uuid
    | none => false

def setProfile (i : Nat) (p : StoredProfile) (b : MemoryBackend) : MemoryBackend :=
  { b with profiles := b.profiles.set i p }

instance : SettingsBackend MemoryBackend where
  listConnections := do
    let b ← get
    if b.listFails then throw (callFailure "list") else pure b.paths
  connectionByUuid uuid := do
    let b ← get
    match b.lookupIndex? uuid with
    | none => throw (.profileNotFound uuid)
    | some i =>
      let path := settingsPath (i + 1)
      let _ ← profileFor path "lookup"
      pure path
  connectionMeta path := do
    let (_, p) ← profileFor path "meta"
    pure p.profileMeta
  getSettings path := do
    let (_, p) ← profileFor path "get_settings"
    pure p.settings
  getSecrets path setting := do
    modify fun b => { b with secretReads := b.secretReads + 1 }
    let (_, p) ← profileFor path "get_secrets"
    match p.secrets with
    | some s => pure s
    | none => throw (callFailure ("secrets of " ++ setting))
  update2 path settings flags := do
    let (i, p) ← profileFor path "update2"
    modify fun b => { setProfile i { p with settings := settings } b with
      submitted := b.submitted ++ [(flags, settings)] }
  activateConnection path := do
    let _ ← profileFor path "activate"
    modify fun b => { b with activated := b.activated ++ [path] }
    let b ← get
    pure ("/org/freedesktop/NetworkManager/ActiveConnection/" ++ toString b.activated.length)
  reloadConnections := do
    let b ← get
    match b.reloadAnswer with
    | some ok => pure ok
    | none => throw (callFailure "reload")
  note r b := { b with journal := b.journal ++ [r] }

def storedSettings? (b : MemoryBackend) (uuid : Uuid) : Option RawSettings :=
  (b.lookupIndex? uuid).bind fun i => b.profiles[i]?.map (·.settings)

end MemoryBackend

end NetConsole
