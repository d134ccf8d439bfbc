import NetConsole.Device.Kinds

namespace NetConsole

structure Device where
  interface : String
  ipInterface : String  -- empty while the device is not activated
  driver : String
  driverVersion : String
  firmwareVersion : String
  capabilities : DeviceCaps
  state : DeviceState
  stateReason : DeviceStateReason
  managed : Bool
  autoconnect : Bool
  firmwareMissing : Bool
  nmPluginMissing : Bool
  deviceType : DeviceType
  ip4Connectivity : Connectivity
  ip6Connectivity : Connectivity
  interfaceFlags : InterfaceFlags
  hwAddress : String
  deriving Repr, Inhabited

/-- The interface a device is known by: the data interface if it has one, otherwise the control
interface. -/
def displayInterface (interface ipInterface : String) : String :=
  if ipInterface.isEmpty then interface else ipInterface

def Device.displayInterface (d : Device) : String := NetConsole.displayInterface d.interface d.ipInterface

structure AccessPoint where
  ssid : String
  frequency : Nat  -- MHz
  strength : Nat  -- percent
  lastSeen : Option Nat  -- milliseconds since boot
  mode : WifiDeviceMode
  rsnFlags : RsnFlags
  deriving Repr, Inhabited

structure WifiDevice where
  device : Device
  mode : WifiDeviceMode
  capabilities : WifiCaps
  activeAccessPoint : Option AccessPoint
  lastScan : Option Nat  -- milliseconds since boot
  deriving Repr, Inhabited

end NetConsole
