import NetConsole.Settings.Field
import NetConsole.Profile.Basic
import NetConsole.Log

/-! A NetworkManager daemon held in memory, for running the client without a system bus. -/

namespace NetConsole.Daemon

inductive ScanOutcome where
  | complete
  | refuse
  | interrupt
  | never
  | completeInterrupted
  deriving DecidableEq, Repr, Inhabited

structure Connection where
  settings : RawSettings
  secrets : Option RawSettings := none
  lookupUuid : Option Uuid := none
  profileMeta : ProfileMeta := {}
  missing : Bool := false
  failing : List String := []
  deriving Inhabited

structure Radio where
  accessPoints : List Nat := []
  activeAccessPoint : Option Nat := none
  mode : Nat := 2
  capabilities : Nat := 0
  lastScan : Int := -1  -- milliseconds since boot; negative for never
  scan : ScanOutcome := .complete
  scanTo : Option Int := none  -- none: 1000 ms after the last scan
  deriving Inhabited

structure DeviceObject where
  interface : String := ""
  ipInterface : String := ""
  driver : String := ""
  driverVersion : String := ""
  firmwareVersion : String := ""
  capabilities : Nat := 0
  state : Nat := 0
  reason : Nat := 0
  managed : Bool := true
  autoconnect : Bool := true
  firmwareMissing : Bool := false
  nmPluginMissing : Bool := false
  deviceType : Nat := 1
  ip4Connectivity : Nat := 0
  ip6Connectivity : Nat := 0
  interfaceFlags : Nat := 0
  hwAddress : String := ""
  radio : Option Radio := none
  missing : Bool := false
  failing : List String := []
  deriving Inhabited

def DeviceObject.ipIface (d : DeviceObject) : String :=
  if d.ipInterface.isEmpty then d.interface else d.ipInterface

structure AccessPointObject where
  ssid : List UInt8 := []
  frequency : Nat := 2412
  strength : Nat := 0
  lastSeen : Int := -1  -- seconds since boot; negative for never
  mode : Nat := 2
  rsnFlags : Nat := 0
  missing : Bool := false
  failing : List String := []
  deriving Inhabited

structure ActiveObject where
  id : String := ""
  uuid : String := ""
  connType : String := ""
  state : Nat := 0
  stateFlags : Nat := 0
  default4 : Bool := false
  default6 : Bool := false
  vpn : Bool := false
  devices : List Nat := []
  missing : Bool := false
  failing : List String := []
  deriving Inhabited

end NetConsole.Daemon

namespace NetConsole

open Daemon in
structure Daemon where
  connections : List Connection := []
  devices : List DeviceObject := []
  accessPoints : List AccessPointObject := []
  active : List ActiveObject := []
  failing : List String := []
  reloadAnswer : Bool := true
  clock : Nat := 0
  cancelAt : Option Nat := none
  scanRequests : Nat := 0
  updates : List (String × UInt32 × RawSettings) := []
  activations : List (String × String × String) := []
  journal : List LogRecord := []
  deriving Inhabited

namespace Daemon

def settingsPrefix : String := "/org/freedesktop/NetworkManager/Settings/"
def devicesPrefix : String := "/org/freedesktop/NetworkManager/Devices/"
def accessPointPrefix : String := "/org/freedesktop/NetworkManager/AccessPoint/"
def activePrefix : String := "/org/freedesktop/NetworkManager/ActiveConnection/"

def pathAt (pre : String) (i : Nat) : String := pre ++ toString (i + 1)

def paths {α : Type} (pre : String) (xs : List α) : List String :=
  (List.range xs.length).map (pathAt pre)

def objectAt? {α : Type} (pre : String) (xs : List α) (path : String) : Option (Nat × α) :=
  ((List.range xs.length).find? fun i => pathAt pre i == path).bind fun i =>
    xs[i]?.map fun x => (i, x)

def present? {α : Type} (missing : α → Bool) : Option (Nat × α) → Option (Nat × α)
  | some (i, x) => if missing x then none else some (i, x)
  | none => none

def cancelled (d : Daemon) : Bool :=
  match d.cancelAt with
  | some t => t ≤ d.clock
  | none => false

end Daemon

end NetConsole
