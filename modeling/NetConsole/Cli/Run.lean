import NetConsole.Cli.Command
import NetConsole.Cli.LogFilter
import NetConsole.Cli.Report
import NetConsole.Client.Settings
import NetConsole.Client.Active
import NetConsole.Client.Scan
import NetConsole.Device.Json
import NetConsole.Active.Json
import NetConsole.Profile.Json
import NetConsole.Json.Print

namespace NetConsole.Cli

open NetConsole.Client (NetworkService)

structure Outcome where
  stdout : String := ""
  stderr : String := ""
  exit : Nat := 0
  deriving DecidableEq, Repr

def programTarget : String := "nmconsole_cli"

def printed (j : Json) : String := Json.pretty 0 j ++ "\n"

variable {σ : Type} [NetworkService σ]

def fromExcept {α : Type} : Except Error α → EStateM Error σ α
  | .ok a => pure a
  | .error e => throw e

def perform (cfg : ClientConfig) : Command → EStateM Error σ String
  | .profiles => do
    let profiles ← ProfileStore.list
    pure (printed (.arr (profiles.map ConnProfile.toJson)))
  | .profile uuid => do pure (printed (← ProfileStore.get uuid).toJson)
  | .update uuid kind fields => do
    let form := Form.ofPairs fields
    let k ← fromExcept (UpdateKind.parse kind)
    (Form.translationNotes form).forM Client.record
    let updates ← fromExcept form.translate
    ProfileStore.update uuid k updates
    pure (k.text ++ " " ++ uuid.text ++ "\n")
  | .activate uuid => do
    ProfileStore.activate uuid
    pure ""
  | .reload => do
    ProfileStore.reload (σ := σ)
    pure ""
  | .devices => do pure (printed (.arr ((← Client.listDevices).map Device.toJson)))
  | .device iface => do pure (printed (← Client.getDevice iface).toJson)
  | .active => do pure (printed (activeJson (← Client.listActive)))
  | .wifi iface => do pure (printed (← Client.getWifiDevice (iface.getD cfg.wifiInterface)).toJson)
  | .scan rescan iface => do
    let iface := iface.getD cfg.wifiInterface
    if rescan then
      Client.rescanNetworks iface cfg.scanPollInterval
      Client.record ⟨.info, programTarget, "Rescan finished"⟩
    pure (printed (networksJson (← Client.scanNetworks iface)))

/-- Runs the program on the words after its name, with the operator's log filter, against the
service. -/
def runProgram (words : List String) (logSetting : Option String) (s : σ) : Outcome × σ :=
  match Invocation.read words with
  | .error (.display text) => ({ stdout := text }, s)
  | .error (.refuse text) => ({ stderr := text, exit := 2 }, s)
  | .ok inv =>
    let filter := LogFilter.ofSetting logSetting
    let logged := fun (s' : σ) => filter.render ((NetworkService.journal s').drop (NetworkService.journal s).length)
    match (perform inv.config inv.command).run s with
    | .ok out s' => ({ stdout := out, stderr := logged s' }, s')
    | .error e s' => ({ stderr := logged s' ++ failureReport e, exit := 1 }, s')

end NetConsole.Cli
