import NetConsole.Client.Call
import NetConsole.Store.Backend

namespace NetConsole.Client

open NetConsole.Bus (Value)

variable {σ : Type} [NetworkService σ]

def settingsTarget : String := "nmconsole::core::settings"

def hexFlags (n : Nat) : String := "0x" ++ Flags.hexText n

def connectionByUuid (uuid : Uuid) : EStateM Error σ String := do
  debug settingsTarget ("Looking up connection profile " ++ uuid.text)
  EStateM.adaptExcept
    (fun e => if e.isReply invalidConnectionError then .profileNotFound uuid
      else .busCall ("couldn't find connection profile " ++ uuid.text) e)
    (NetworkService.connectionByUuid uuid.text)

def connectionMeta (path : String) : EStateM Error σ ProfileMeta := do
  let unsaved ← readAs path .connection "Unsaved" "couldn't read Unsaved" Value.asBool?
  let flags ← readAs path .connection "Flags" "couldn't read Flags" Value.asUInt32?
  let filename ← readAs path .connection "Filename" "couldn't read Filename" Value.asString?
  return { unsaved, flags, filename }

instance : SettingsBackend σ where
  listConnections := do
    debug settingsTarget "Listing connection profiles"
    call "ListConnections failed" NetworkService.listConnections
  connectionByUuid := connectionByUuid
  connectionMeta := connectionMeta
  getSettings path := do
    debug settingsTarget ("Getting settings of " ++ path)
    call "GetSettings failed" (NetworkService.getSettings path)
  getSecrets path setting := do
    debug settingsTarget ("Getting " ++ setting ++ " secrets of " ++ path)
    call ("GetSecrets(" ++ setting ++ ") failed") (NetworkService.getSecrets path setting)
  update2 path settings flags := do
    debug settingsTarget ("Calling Update2 on " ++ path ++ " with flags " ++ hexFlags flags.bits.toNat)
    call "Update2 failed" (NetworkService.update2 path settings flags.bits)
  activateConnection path := do
    debug settingsTarget ("Activating " ++ path)
    call "ActivateConnection failed" (NetworkService.activateConnection path noObject noObject)
  reloadConnections := do
    debug settingsTarget "Reloading connection profiles"
    call "ReloadConnections failed" NetworkService.reloadConnections
  note := NetworkService.note

end NetConsole.Client
