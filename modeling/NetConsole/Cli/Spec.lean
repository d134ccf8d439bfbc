import NetConsole.Uuid
import NetConsole.Number.Integer
import NetConsole.Text.Quoted

namespace NetConsole.Cli

structure ArgSpec where
  id : String
  long : Option String := none
  short : Option Char := none
  value : Option String := none
  help : String := ""
  required : Bool := false
  many : Bool := false
  default : Option String := none
  check : String → Option String := fun _ => none

namespace ArgSpec

def isPositional (a : ArgSpec) : Bool := a.long.isNone && a.short.isNone

def takesValue (a : ArgSpec) : Bool := a.value.isSome

def display (a : ArgSpec) : String :=
  let v := a.value.getD a.id
  if a.isPositional then
    (if a.required then "<" ++ v ++ ">" else "[" ++ v ++ "]") ++ (if a.many then "..." else "")
  else
    let flag := match a.long, a.short with
      | some l, _ => "--" ++ l
      | none, some c => "-" ++ c.toString
      | none, none => ""
    flag ++ (match a.value with
      | some v => " <" ++ v ++ ">"
      | none => "")

end ArgSpec

structure CommandSpec where
  name : String
  about : String
  args : List ArgSpec := []

structure ProgramSpec where
  name : String
  version : String
  about : String
  globals : List ArgSpec
  commands : List CommandSpec

def helpFlag : ArgSpec := { id := "help", long := some "help", short := some 'h', help := "Print help" }

def versionFlag : ArgSpec :=
  { id := "version", long := some "version", short := some 'V', help := "Print version" }

def helpCommand : CommandSpec :=
  { name := "help", about := "Print this message or the help of the given subcommand(s)"
    args := [{ id := "subcommand", value := some "COMMAND", many := true
               help := "Print help for the subcommand(s)" }] }

def parseMillis (raw : String) : Except String Nat :=
  match IntRange.u64.parse raw with
  | .ok n => .ok n.toNat
  | .error e => .error ("invalid interval " ++ Text.debugQuote raw ++ ": " ++ e.message)

def parseField (raw : String) : Except String (String × String) :=
  match raw.splitOn "=" with
  | key :: rest@(_ :: _) =>
    if key.isEmpty then .error ("expected section.key=value, got " ++ Text.debugQuote raw)
    else .ok (key, "=".intercalate rest)
  | _ => .error ("expected section.key=value, got " ++ Text.debugQuote raw)

def reasonOf {α : Type} (r : Except String α) : Option String :=
  match r with
  | .ok _ => none
  | .error e => some e

def uuidArg : ArgSpec :=
  { id := "uuid", value := some "UUID", required := true
    check := fun raw => match Uuid.parse raw with
      | .ok _ => none
      | .error e => some e.message }

def ifaceArg (required : Bool) : ArgSpec := { id := "iface", value := some "IFACE", required }

def wifiInterfaceArg : ArgSpec :=
  { id := "wifi_interface", long := some "wifi-interface", value := some "WIFI_INTERFACE"
    help := "Wi-Fi interface used when a command doesn't name one" }

def pollIntervalArg : ArgSpec :=
  { id := "poll_interval", long := some "poll-interval", value := some "POLL_INTERVAL"
    help := "Milliseconds between checks while waiting for a rescan"
    check := fun raw => reasonOf (parseMillis raw) }

def kindArg : ArgSpec :=
  { id := "kind", long := some "kind", value := some "KIND"
    help := "\"save and apply\" or \"save\" writes to disk; \"apply temporarily\" or " ++
      "\"apply\" changes the profile in memory only"
    default := some "apply temporarily" }

def fieldsArg : ArgSpec :=
  { id := "fields", value := some "FIELDS", required := true, many := true
    check := fun raw => reasonOf (parseField raw) }

def rescanArg : ArgSpec :=
  { id := "rescan", long := some "rescan"
    help := "Request a fresh scan first; Ctrl-C cancels the wait" }

def program : ProgramSpec where
  name := "nmconsole"
  version := "0.1.0"
  about := "Inspect and edit NetworkManager connection profiles"
  globals := [wifiInterfaceArg, pollIntervalArg]
  commands := [
    { name := "profiles", about := "List all connection profiles" },
    { name := "profile", about := "Show one connection profile", args := [uuidArg] },
    { name := "update", about := "Apply " ++ "\x60section.key=value\x60" ++ " fields to a profile"
      args := [uuidArg, kindArg, fieldsArg] },
    { name := "activate", about := "Activate a connection profile", args := [uuidArg] },
    { name := "reload", about := "Reload profiles from disk" },
    { name := "devices", about := "List devices" },
    { name := "device", about := "Show one device", args := [ifaceArg true] },
    { name := "active", about := "List active connections" },
    { name := "wifi", about := "Show a Wi-Fi device", args := [ifaceArg false] },
    { name := "scan", about := "List visible networks", args := [rescanArg, ifaceArg false] }]

end NetConsole.Cli
