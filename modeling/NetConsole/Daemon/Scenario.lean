import NetConsole.Daemon.Basic
import NetConsole.Settings.Json
import NetConsole.Number.Integer
import NetConsole.Config

namespace NetConsole.Daemon

abbrev Decode := Except String

namespace Decode

def text (j : Json) (key : String) (default : String := "") : String :=
  match j.find? key with
  | some (.str s) => s
  | _ => default

def flag (j : Json) (key : String) (default : Bool) : Bool :=
  match j.find? key with
  | some (.bool b) => b
  | _ => default

def strictFlag (j : Json) (key : String) (default : Bool) : Decode Bool :=
  match j.find? key with
  | none => pure default
  | some (.bool b) => pure b
  | some _ => throw (key ++ " must be a bool")

def code (j : Json) (key : String) (default : Nat := 0) : Decode Nat :=
  match j.find? key with
  | none => pure default
  | some (.int n) => if IntRange.u32.contains n then pure n.toNat else throw (key ++ " must be a u32")
  | some _ => throw (key ++ " must be a u32")

def time (j : Json) (key : String) (default : Int) : Decode Int :=
  match j.find? key with
  | none => pure default
  | some (.int n) =>
    if IntRange.i64.contains n then pure n else throw (key ++ " must be an integer")
  | some _ => throw (key ++ " must be an integer")

def time? (j : Json) (key : String) : Option Int :=
  match j.find? key with
  | some (.int n) => if IntRange.i64.contains n then some n else none
  | _ => none

def count? (j : Json) (key : String) : Option Nat :=
  match j.find? key with
  | some (.int n) => if IntRange.u64.contains n then some n.toNat else none
  | _ => none

def narrowed (r : IntRange) (n : Int) : Decode Int :=
  match r.parse (toString n) with
  | .ok v => pure v
  | .error e => throw e.message

def indices (j : Json) (key : String) : Decode (List Nat) :=
  match j.find? key with
  | none => pure []
  | some (.arr xs) =>
    xs.mapM fun x => match x.nat? with
      | some n => pure n
      | none => throw (key ++ " must be a list of indices")
  | some _ => throw (key ++ " must be a list of indices")

def index? (j : Json) (key : String) : Decode (Option Nat) :=
  match j.given? key with
  | none => pure none
  | some x => match x.nat? with
    | some n => pure (some n)
    | none => throw (key ++ " must be an index")

def names (j : Json) (key : String) : List String :=
  match j.find? key with
  | some (.arr xs) => xs.filterMap Json.str?
  | _ => []

def rawSettings? (j : Json) (key : String) : Decode (Option RawSettings) :=
  match j.given? key with
  | none => pure none
  | some s => some <$> RawSettings.ofJson s

def listOf {α : Type} (j : Json) (key : String) (item : Nat → Json → Decode α) : Decode (List α) :=
  match j.find? key with
  | none => pure []
  | some (.arr xs) => (xs.zipIdx 1).mapM fun (x, i) => item i x
  | some _ => throw (key ++ " must be a list")

end Decode

open Decode

def ownUuid (settings : RawSettings) : Option Uuid :=
  match (settings.get? Setting.connection).bind (·.get? "uuid") with
  | some (.string s) => (Uuid.parse s).toOption
  | _ => none

def defaultFilename (i : Nat) : String :=
  "/etc/NetworkManager/system-connections/" ++ toString i ++ ".nmconnection"

def Connection.ofJson (i : Nat) (j : Json) : Decode Connection := do
  let lookup ← match j.given? "uuid" with
    | none => pure none
    | some (.str s) => match Uuid.parse s with
      | .ok u => pure (some (some u))
      | .error e => throw ("bad profile uuid: " ++ e.message)
    | some _ => throw "profile uuid must be a string"
  let settings := (← rawSettings? j "settings").getD []
  let secrets ← rawSettings? j "secrets"
  let m := (j.given? "meta").getD (.obj [])
  let flags ← code m "flags"
  return {
    settings
    secrets
    lookupUuid := lookup.getD (ownUuid settings)
    profileMeta := {
      unsaved := flag m "unsaved" false
      flags
      filename := text m "filename" (defaultFilename i) }
    missing := flag j "missing" false
    failing := names j "fail" }

def scanOutcome (j : Json) : ScanOutcome :=
  match text j "scan" "complete" with
  | "error" => .refuse
  | "cancel" => .interrupt
  | "never" => .never
  | "complete_cancel" => .completeInterrupted
  | _ => .complete

def Radio.ofJson (j : Json) : Decode Radio := do
  let accessPoints ← indices j "access_points"
  let activeAccessPoint ← index? j "active_access_point"
  let capabilities ← code j "capabilities"
  let mode ← code j "mode" 2
  let lastScan ← time j "last_scan" (-1)
  return { accessPoints, activeAccessPoint, mode, capabilities, lastScan, scan := scanOutcome j,
           scanTo := time? j "scan_to" }

def DeviceObject.ofJson (_ : Nat) (j : Json) : Decode DeviceObject := do
  let radio ← match j.find? "wireless" with
    | none => pure none
    | some w@(.obj _) => some <$> Radio.ofJson w
    | some _ => throw "wireless must be an object"
  return {
    interface := text j "interface"
    ipInterface := text j "ip_interface"
    driver := text j "driver"
    driverVersion := text j "driver_version"
    firmwareVersion := text j "firmware_version"
    capabilities := ← code j "capabilities"
    state := ← code j "state"
    reason := ← code j "reason"
    managed := flag j "managed" true
    autoconnect := flag j "autoconnect" true
    firmwareMissing := flag j "firmware_missing" false
    nmPluginMissing := flag j "nm_plugin_missing" false
    deviceType := ← code j "device_type" (if radio.isSome then 2 else 1)
    ip4Connectivity := ← code j "ip4_connectivity"
    ip6Connectivity := ← code j "ip6_connectivity"
    interfaceFlags := ← code j "interface_flags"
    hwAddress := text j "hw_address"
    radio
    missing := flag j "missing" false
    failing := names j "fail" }

def ssidOf : Option Json → Decode (List UInt8)
  | none => pure []
  | some (.str s) => pure s.toUTF8.toList
  | some (.arr xs) =>
    xs.mapM fun x => match x with
      | .int n => if 0 ≤ n ∧ n < 256 then pure n.toNat.toUInt8 else throw "ssid bytes must be u8"
      | _ => throw "ssid bytes must be u8"
  | some _ => throw "ssid must be a string or a list of bytes"

def AccessPointObject.ofJson (_ : Nat) (j : Json) : Decode AccessPointObject := do
  return {
    ssid := ← ssidOf (j.find? "ssid")
    frequency := ← code j "frequency" 2412
    strength := (← narrowed IntRange.u8 (← code j "strength" 0)).toNat
    lastSeen := ← narrowed IntRange.i32 (← time j "last_seen" (-1))
    mode := ← code j "mode" 2
    rsnFlags := ← code j "rsn_flags"
    missing := flag j "missing" false
    failing := names j "fail" }

def ActiveObject.ofJson (_ : Nat) (j : Json) : Decode ActiveObject := do
  return {
    id := text j "id"
    uuid := text j "uuid"
    connType := text j "type"
    state := ← code j "state"
    stateFlags := ← code j "state_flags"
    default4 := flag j "default" false
    default6 := flag j "default6" false
    vpn := flag j "vpn" false
    devices := ← indices j "devices"
    missing := flag j "missing" false
    failing := names j "fail" }

end NetConsole.Daemon

namespace NetConsole.Daemon

open Decode

def ofJson (j : Json) : Decode Daemon := do
  let connections ← listOf j "profiles" Connection.ofJson
  let devices ← listOf j "devices" DeviceObject.ofJson
  let accessPoints ← listOf j "access_points" AccessPointObject.ofJson
  let active ← listOf j "active" ActiveObject.ofJson
  let reloadAnswer ← strictFlag j "reload" true
  return { connections, devices, accessPoints, active, failing := names j "fail", reloadAnswer }

/-- The client settings a scenario's `config` gives, over `base`; a field of the wrong kind is
left at its value in `base`. -/
def configOf (j : Json) (base : ClientConfig) : ClientConfig :=
  let c := (j.given? "config").getD (.obj [])
  let iface := text c "wifi_interface" base.wifiInterface
  let poll := (count? c "poll_ms").getD base.scanPollInterval
  (base.withWifiInterface iface).withScanPollInterval poll

end NetConsole.Daemon
