import NetConsole.Client.Call
import NetConsole.Device.Basic
import NetConsole.Text.Utf8

namespace NetConsole.Client

open NetConsole.Bus (Value)

variable {σ : Type} [NetworkService σ]

def devicesTarget : String := "nmconsole::core::devices"

def utilsTarget : String := "nmconsole::util::utils"

def sinceBoot (ms : Int) : Option Nat := if ms < 0 then none else some ms.toNat

def decodeSsid (bytes : List UInt8) : EStateM Error σ String := do
  match Text.invalidMessage bytes with
  | none => pure ()
  | some problem => record ⟨.warn, utilsTarget, "Invalid UTF-8 in SSID: " ++ problem⟩
  return Text.lossy bytes

def findDevice (iface : String) : EStateM Error σ String :=
  EStateM.adaptExcept
    (fun e => if e.isReply unknownDeviceError then .deviceNotFound iface
      else .busCall ("couldn't find device " ++ iface) e)
    (NetworkService.deviceByIpIface iface)

def readDevice (path : String) : EStateM Error σ Device := do
  debug devicesTarget ("Reading device " ++ path)
  let prop := fun {α : Type} (name what : String) (as? : Value → Option α) =>
    readAs path .device name ("couldn't query for " ++ what) as?
  let (state, reason) ← prop "StateReason" "device state" Value.asCodePair?
  let interface ← prop "Interface" "control interface" Value.asString?
  let ipInterface ← prop "IpInterface" "data interface" Value.asString?
  let driver ← prop "Driver" "driver" Value.asString?
  let driverVersion ← prop "DriverVersion" "driver version" Value.asString?
  let firmwareVersion ← prop "FirmwareVersion" "firmware version" Value.asString?
  let capabilities ← prop "Capabilities" "capabilities" Value.asUInt32?
  let managed ← prop "Managed" "managed" Value.asBool?
  let autoconnect ← prop "Autoconnect" "autoconnect" Value.asBool?
  let firmwareMissing ← prop "FirmwareMissing" "missing firmware" Value.asBool?
  let nmPluginMissing ← prop "NmPluginMissing" "missing plugin" Value.asBool?
  let deviceType ← prop "DeviceType" "device type" Value.asUInt32?
  let ip4Connectivity ← prop "Ip4Connectivity" "IPv4 connectivity" Value.asUInt32?
  let ip6Connectivity ← prop "Ip6Connectivity" "IPv6 connectivity" Value.asUInt32?
  let interfaceFlags ← prop "InterfaceFlags" "interface flags" Value.asUInt32?
  let hwAddress ← prop "HwAddress" "hardware address" Value.asString?
  return {
    interface
    ipInterface
    driver
    driverVersion
    firmwareVersion
    capabilities := ⟨capabilities.toUInt32⟩
    state := DeviceState.ofCode state
    stateReason := ⟨reason⟩
    managed
    autoconnect
    firmwareMissing
    nmPluginMissing
    deviceType := ⟨deviceType⟩
    ip4Connectivity := Connectivity.ofCode ip4Connectivity
    ip6Connectivity := Connectivity.ofCode ip6Connectivity
    interfaceFlags := ⟨interfaceFlags.toUInt32⟩
    hwAddress }

def readAccessPoint (path : String) : EStateM Error σ AccessPoint := do
  let prop := fun {α : Type} (name what : String) (as? : Value → Option α) =>
    readAs path .accessPoint name ("couldn't query for " ++ what) as?
  let ssid ← decodeSsid (← prop "Ssid" "SSID" Value.asBytes?)
  let frequency ← prop "Frequency" "frequency" Value.asUInt32?
  let strength ← prop "Strength" "signal strength" Value.asByte?
  let lastSeen ← prop "LastSeen" "last seen time" Value.asInt32?
  let mode ← prop "Mode" "Wi-Fi mode" Value.asUInt32?
  let rsnFlags ← prop "RsnFlags" "RSN flags" Value.asUInt32?
  return {
    ssid
    frequency
    strength := strength.toNat
    lastSeen := (sinceBoot lastSeen).map (· * 1000)
    mode := WifiDeviceMode.ofCode mode
    rsnFlags := ⟨rsnFlags.toUInt32⟩ }

def readWifiDevice (path : String) : EStateM Error σ WifiDevice := do
  let device ← within "couldn't query for generic device properties" (readDevice path)
  let prop := fun {α : Type} (name what : String) (as? : Value → Option α) =>
    readAs path .wireless name ("couldn't query for " ++ what) as?
  let apPath ← prop "ActiveAccessPoint" "active AP" Value.asObjectPath?
  let activeAccessPoint ← if apPath == noObject then pure none
    else some <$> within ("couldn't query for access point " ++ apPath) (readAccessPoint apPath)
  let mode ← prop "Mode" "Wi-Fi mode" Value.asUInt32?
  let capabilities ← prop "WirelessCapabilities" "capabilities" Value.asUInt32?
  let lastScan ← prop "LastScan" "last scan" Value.asInt64?
  return {
    device
    mode := WifiDeviceMode.ofCode mode
    capabilities := ⟨capabilities.toUInt32⟩
    activeAccessPoint
    lastScan := sinceBoot lastScan }

/-- All devices, by the name each is known by; devices of equal names stay in the service's
order. -/
def listDevices : EStateM Error σ (List Device) := do
  let paths ← call "failed to get device paths from NetworkManager" NetworkService.getDevices
  let devices ← paths.mapM fun path => within ("couldn't inspect device " ++ path) (readDevice path)
  return devices.mergeSort fun a b => decide (a.displayInterface ≤ b.displayInterface)

def getDevice (iface : String) : EStateM Error σ Device := do
  let path ← findDevice iface
  within ("couldn't inspect device " ++ iface) (readDevice path)

def getWifiDevice (iface : String) : EStateM Error σ WifiDevice := do
  let path ← findDevice iface
  within ("couldn't inspect device " ++ iface) (readWifiDevice path)

end NetConsole.Client
