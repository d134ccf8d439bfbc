import NetConsole.Device.Basic
import NetConsole.Json.Basic

namespace NetConsole

def variantJson (name : Option String) (code : Nat) : Json :=
  match name with
  | some n => .str n
  | none => .obj [("Other", .ofNat code)]

def durationJson (ms : Nat) : Json :=
  .obj [("secs", .ofNat (ms / 1000)), ("nanos", .ofNat (ms % 1000 * 1000000))]

def DeviceState.name? : DeviceState → Option String
  | .unknown => some "Unknown"
  | .unmanaged => some "Unmanaged"
  | .unavailable => some "Unavailable"
  | .disconnected => some "Disconnected"
  | .prepare => some "Prepare"
  | .config => some "Config"
  | .needAuth => some "NeedAuth"
  | .ipConfig => some "IpConfig"
  | .ipCheck => some "IpCheck"
  | .secondaries => some "Secondaries"
  | .activated => some "Activated"
  | .deactivating => some "Deactivating"
  | .failed => some "Failed"
  | .other _ => none

def Connectivity.name? : Connectivity → Option String
  | .unknown => some "Unknown"
  | .none => some "None"
  | .portal => some "Portal"
  | .limited => some "Limited"
  | .full => some "Full"
  | .other _ => Option.none

def WifiDeviceMode.name? : WifiDeviceMode → Option String
  | .unknown => some "Unknown"
  | .adhoc => some "Adhoc"
  | .infra => some "Infra"
  | .ap => some "Ap"
  | .mesh => some "Mesh"
  | .other _ => none

def Device.toJson (d : Device) : Json :=
  .obj [("interface", .str d.interface), ("ip_interface", .str d.ipInterface),
    ("driver", .str d.driver), ("driver_version", .str d.driverVersion),
    ("firmware_version", .str d.firmwareVersion),
    ("capabilities", .str (Flags.text DeviceCaps.names d.capabilities.bits)),
    ("state", variantJson d.state.name? d.state.code), ("state_reason", .ofNat d.stateReason.code),
    ("managed", .bool d.managed), ("autoconnect", .bool d.autoconnect),
    ("firmware_missing", .bool d.firmwareMissing), ("nm_plugin_missing", .bool d.nmPluginMissing),
    ("device_type", .ofNat d.deviceType.code),
    ("ip4_connectivity", variantJson d.ip4Connectivity.name? d.ip4Connectivity.code),
    ("ip6_connectivity", variantJson d.ip6Connectivity.name? d.ip6Connectivity.code),
    ("interface_flags", .str (Flags.text InterfaceFlags.names d.interfaceFlags.bits)),
    ("hw_address", .str d.hwAddress)]

def AccessPoint.toJson (ap : AccessPoint) : Json :=
  .obj [("ssid", .str ap.ssid), ("frequency", .ofNat ap.frequency), ("strength", .ofNat ap.strength),
    ("last_seen", Json.opt durationJson ap.lastSeen), ("mode", variantJson ap.mode.name? ap.mode.code),
    ("rsn_flags", .str (Flags.text RsnFlags.names ap.rsnFlags.bits))]

def WifiDevice.toJson (w : WifiDevice) : Json :=
  .obj [("device", w.device.toJson), ("mode", variantJson w.mode.name? w.mode.code),
    ("capabilities", .str (Flags.text WifiCaps.names w.capabilities.bits)),
    ("active_access_point", Json.opt AccessPoint.toJson w.activeAccessPoint),
    ("last_scan", Json.opt durationJson w.lastScan)]

def networksJson (networks : List (String × List AccessPoint)) : Json :=
  .obj (networks.map fun (ssid, aps) => (ssid, .arr (aps.map AccessPoint.toJson)))

end NetConsole
