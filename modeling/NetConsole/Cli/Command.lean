import NetConsole.Cli.Parse
import NetConsole.Config

namespace NetConsole.Cli

inductive Command where
  | profiles
  | profile (uuid : Uuid)
  | update (uuid : Uuid) (kind : String) (fields : List (String × String))
  | activate (uuid : Uuid)
  | reload
  | devices
  | device (iface : String)
  | active
  | wifi (iface : Option String)
  | scan (rescan : Bool) (iface : Option String)

structure Invocation where
  wifiInterface : Option String := none
  pollInterval : Option Nat := none  -- milliseconds
  command : Command

/-- The command a read command line names. Its values were checked as they were read, so the
readings here succeed. -/
def Command.ofGiven (name : String) (g : Given) : Option Command :=
  let uuid := (g.values uuidArg.id).head?.bind fun raw => (Uuid.parse raw).toOption
  let iface := (g.values (ifaceArg false).id).head?
  match name with
  | "profiles" => some .profiles
  | "profile" => Command.profile <$> uuid
  | "update" => do
    let u ← uuid
    let fields ← (g.values fieldsArg.id).mapM fun raw => (parseField raw).toOption
    pure (.update u ((g.values kindArg.id).head?.getD (kindArg.default.getD "")) fields)
  | "activate" => Command.activate <$> uuid
  | "reload" => some .reload
  | "devices" => some .devices
  | "device" => Command.device <$> iface
  | "active" => some .active
  | "wifi" => some (.wifi iface)
  | "scan" => some (.scan (g.has rescanArg.id) iface)
  | _ => none

def CommandLine.option (cl : CommandLine) (a : ArgSpec) : Option String :=
  (cl.args.values a.id).head? <|> (cl.options.values a.id).head?

def Invocation.ofCommandLine (cl : CommandLine) : Option Invocation := do
  let command ← Command.ofGiven cl.command.name cl.args
  let pollInterval ← match cl.option pollIntervalArg with
    | some raw => some <$> (parseMillis raw).toOption
    | none => pure none
  pure { wifiInterface := cl.option wifiInterfaceArg, pollInterval, command }

def Invocation.read (words : List String) : Except Stop Invocation := do
  let cl ← readCommandLine program words
  match Invocation.ofCommandLine cl with
  | some inv => pure inv
  | none => throw (.refuse ((topLevel program).refusal "the command line could not be read" [] none))

def Invocation.config (inv : Invocation) : ClientConfig :=
  let base : ClientConfig := {}
  let base := match inv.wifiInterface with
    | some iface => base.withWifiInterface iface
    | none => base
  match inv.pollInterval with
  | some ms => base.withScanPollInterval ms
  | none => base

end NetConsole.Cli
