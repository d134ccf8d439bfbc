import NetConsole.Description
import NetConsole.Flags

namespace NetConsole

inductive DeviceState where
  | unknown
  | unmanaged
  | unavailable
  | disconnected
  | prepare
  | config
  | needAuth
  | ipConfig
  | ipCheck
  | secondaries
  | activated
  | deactivating
  | failed
  | other (code : Nat)
  deriving DecidableEq, Repr, Inhabited

namespace DeviceState

def ofCode : Nat → DeviceState
  | 0 => .unknown
  | 10 => .unmanaged
  | 20 => .unavailable
  | 30 => .disconnected
  | 40 => .prepare
  | 50 => .config
  | 60 => .needAuth
  | 70 => .ipConfig
  | 80 => .ipCheck
  | 90 => .secondaries
  | 100 => .activated
  | 110 => .deactivating
  | 120 => .failed
  | n => .other n

def code : DeviceState → Nat
  | .unknown => 0
  | .unmanaged => 10
  | .unavailable => 20
  | .disconnected => 30
  | .prepare => 40
  | .config => 50
  | .needAuth => 60
  | .ipConfig => 70
  | .ipCheck => 80
  | .secondaries => 90
  | .activated => 100
  | .deactivating => 110
  | .failed => 120
  | .other n => n

def describe : DeviceState → Description
  | .unknown => ⟨"unknown", "", .error⟩
  | .unmanaged => ⟨"unmanaged", "recognized, but not managed", .info⟩
  | .unavailable => ⟨"unavailable", "managed, but not available for use", .info⟩
  | .disconnected => ⟨"disconnected", "can be activated, but currently idle", .info⟩
  | .prepare => ⟨"prepare", "preparing connection", .info⟩
  | .config => ⟨"config", "connecting", .info⟩
  | .needAuth => ⟨"need auth", "more information needed to connect", .warning⟩
  | .ipConfig => ⟨"IP config", "requesting IP addresses and routing information", .info⟩
  | .ipCheck => ⟨"IP check", "checking whether more action is needed", .info⟩
  | .secondaries => ⟨"secondaries", "waiting for activation of secondary connection", .info⟩
  | .activated => ⟨"activated", "has a network connection", .success⟩
  | .deactivating => ⟨"deactivating", "cleaning up resources to disconnect from current connection", .info⟩
  | .failed => ⟨"failed", "failed to connect to requested network, cleaning up", .error⟩
  | .other n => .unknown s!"state ({n}) was reported but could not be determined"

end DeviceState

structure DeviceStateReason where
  code : Nat
  deriving DecidableEq, Repr, Inhabited

namespace DeviceStateReason

def table : List (Nat × String × String) := [
    (0, "", ""),
    (1, "unknown error", ""),
    (2, "now managed", ""),
    (3, "now unmanaged", ""),
    (4, "config failed", "device couldn't be readied for configuration"),
    (5, "IP config unavailable", "IP configuration couldn't be reserved"),
    (6, "IP config expired", "IP configuration no longer valid"),
    (7, "no secrets", "required secrets weren't provided"),
    (8, "supplicant disconnect", "802.1x supplicant disconnected"),
    (9, "supplicant config failed", "802.1x supplicant configuration failed"),
    (10, "supplicant failed", "802.1x supplicant failed"),
    (11, "supplicant timeout", "802.1x supplicant took too long to authenticate"),
    (12, "PPP start failed", "PPP service failed to start"),
    (13, "PPP disconnect", "PPP service disconnected"),
    (14, "PPP failed", "PPP service failed"),
    (15, "DHCP start failed", "DHCP client failed to start"),
    (16, "DHCP error", "DHCP client error"),
    (17, "DHCP failed", "DHCP client failed"),
    (18, "shared start failed", "shared connection service failed to start"),
    (19, "shared failed", "shared connection service failed"),
    (20, "AutoIP start failed", "AutoIP service failed to start"),
    (21, "AutoIP error", "AutoIP service error"),
    (22, "AutoIP failed", "AutoIP service failed"),
    (23, "modem busy", "line is busy"),
    (24, "modem no dial tone", ""),
    (25, "modem no carrier", "carrier couldn't be established"),
    (26, "modem dial timeout", "dialing request timed out"),
    (27, "modem dial failed", "dialing attempt failed"),
    (28, "modem init failed", "modem initialization failed"),
    (29, "GSM APN failed", "failed to select specified APN"),
    (30, "GSM registration not searching", "not searching for networks"),
    (31, "GSM registration denied", "network registration denied"),
    (32, "GSM registration timeout", "network registration timed out"),
    (33, "GSM registration failed", "failed to register with requested network"),
    (34, "GSM PIN check failed", ""),
    (35, "firmware missing", ""),
    (36, "removed", "device was removed"),
    (37, "sleeping", "NetworkManager went to sleep"),
    (38, "connection removed", "active connection disappeared"),
    (39, "user requested", "disconnected by user or client"),
    (40, "carrier", "carrier/link changed"),
    (41, "connection assumed", "existing connection was assumed"),
    (42, "supplicant available", "supplicant is now available"),
    (43, "modem not found", ""),
    (44, "BT failed", "Bluetooth connection failed or timed out"),
    (45, "GSM SIM not inserted", "GSM modem's SIM card not inserted"),
    (46, "GSM PIN required", ""),
    (47, "GSM PUK required", ""),
    (48, "GSM SIM wrong", ""),
    (49, "InfiniBand mode", "InfiniBand device does not support connected mode"),
    (50, "dependency failed", "dependency of the connection failed"),
    (51, "BR2684 failed", "problem with the RFC 2684 Ethernet over ADSL bridge"),
    (52, "ModemManager unavailable", "not running"),
    (53, "SSID not found", "Wi-Fi network couldn't be found"),
    (54, "secondary connection failed", "secondary connection of base connection failed"),
    (55, "DCB FCoE failed", "DCB or FCoE setup failed"),
    (56, "teamd control failed", ""),
    (57, "modem failed", "modem failed or no longer available"),
    (58, "modem available", "modem now ready and available"),
    (59, "SIM PIN incorrect", ""),
    (60, "new activation", "new connection activation was enqueued"),
    (61, "parent changed", "device's parent changed"),
    (62, "parent managed changed", "device's parent's management changed"),
    (63, "OVSDB failed", "problem communicating with Open vSwitch database"),
    (64, "IP address duplicate", "duplicate IP address detected"),
    (65, "IP method unsupported", "selected IP method not supported"),
    (66, "SR-IOV configuration failed", "configuration of SR-IOV parameters failed"),
    (67, "peer not found", "Wi-Fi P2P peer not found"),
    (68, "device handler failed", "device handler dispatcher returned error"),
    (69, "unmanaged by default", "because device type is unmanaged by default"),
    (70, "unmanaged external down", "it's an external device and is unconfigured (down or no addresses)"),
    (71, "unmanaged link not init", "the link is not initialized by udev"),
    (72, "unmanaged quitting", "NetworkManager is quitting"),
    (73, "unmanaged sleeping", "networking is disabled or the system is suspended"),
    (74, "unmanaged user conf", "unmanaged by user decision in NetworkManager.conf ('unmanaged' in a device section)"),
    (75, "unmanaged user explicit", "unmanaged by explicit user decision"),
    (76, "unmanaged user settings", "unmanaged by user decision via settings plugin"),
    (77, "unmanaged user udev", "unmanaged via udev rule")]

def describe (r : DeviceStateReason) : Description :=
  match table.lookup r.code with
  | some (short, details) => ⟨short, details, .none⟩
  | none => .unknown s!"reason ({r.code}) was reported but could not be determined"

end DeviceStateReason

structure DeviceType where
  code : Nat
  deriving DecidableEq, Repr, Inhabited

namespace DeviceType

def ethernet : DeviceType := ⟨1⟩
def wifi : DeviceType := ⟨2⟩

def isWifi (t : DeviceType) : Bool := t.code == 2

def table : List (Nat × String × String × Severity) := [
    (0, "unknown", "unknown device", .warning),
    (1, "ethernet", "wired ethernet device", .success),
    (2, "wifi", "802.11 Wi-Fi device", .success),
    (3, "unused 1", "not used", .error),
    (4, "unused 2", "not used", .error),
    (5, "bluetooth", "Bluetooth device supporting PAN or DUN access protocols", .info),
    (6, "olpc mesh", "OLPC XO mesh networking device", .info),
    (7, "wimax", "802.16e Mobile WiMAX broadband device", .info),
    (8, "modem", "modem supporting analog telephone, CDMA/EVDO, GSM/UMTS, or LTE protocols", .info),
    (9, "infiniband", "IP-over-InfiniBand device", .info),
    (10, "bond", "bond controller interface", .info),
    (11, "vlan", "802.1Q VLAN interface", .info),
    (12, "adsl", "ADSL modem", .info),
    (13, "bridge", "bridge controller interface", .info),
    (14, "generic", "generic support for unrecognized device types", .warning),
    (15, "team", "team controller interface", .info),
    (16, "tun", "TUN or TAP interface", .info),
    (17, "ip tunnel", "IP tunnel interface", .info),
    (18, "macvlan", "MACVLAN interface", .info),
    (19, "vxlan", "VXLAN interface", .info),
    (20, "veth", "VETH interface", .info),
    (21, "macsec", "MACsec interface", .info),
    (22, "dummy", "dummy interface", .info),
    (23, "ppp", "PPP interface", .info),
    (24, "ovs", "Open vSwitch interface", .info),
    (25, "ovs port", "Open vSwitch port", .info),
    (26, "ovs bridge", "Open vSwitch bridge", .info),
    (27, "wpan", "IEEE 802.15.4 (WPAN) MAC Layer device", .info),
    (28, "6lowpan", "6LoWPAN interface", .info),
    (29, "wireguard", "WireGuard interface", .info),
    (30, "wifi p2p", "802.11 Wi-Fi P2P device", .info),
    (31, "vrf", "VRF (Virtual Routing and Forwarding) interface", .info),
    (32, "loopback", "loopback interface", .info),
    (33, "hsr", "HSR/PRP device", .info),
    (34, "ipvlan", "IPVLAN device", .info)]

def describe (t : DeviceType) : Description :=
  match table.lookup t.code with
  | some (short, details, severity) => ⟨short, details, severity⟩
  | none => .unknown s!"type ({t.code}) was reported but could not be determined"

def text (t : DeviceType) : String :=
  match table.lookup t.code with
  | some (short, _, _) => short
  | none => s!"Other({t.code})"

end DeviceType

inductive Connectivity where
  | unknown
  | none
  | portal
  | limited
  | full
  | other (code : Nat)
  deriving DecidableEq, Repr, Inhabited

namespace Connectivity

def ofCode : Nat → Connectivity
  | 0 => .unknown
  | 1 => .none
  | 2 => .portal
  | 3 => .limited
  | 4 => .full
  | n => .other n

def code : Connectivity → Nat
  | .unknown => 0
  | .none => 1
  | .portal => 2
  | .limited => 3
  | .full => 4
  | .other n => n

def describe : Connectivity → Description
  | .unknown => ⟨"unknown", "connectivity checks disabled or not run yet; internet might be available", .info⟩
  | .none => ⟨"none", "network connection unavailable, no default route to the internet", .info⟩
  | .portal => ⟨"captive portal", "blocked by a captive portal", .info⟩
  | .limited => ⟨"limited", "connected to network without full internet access", .info⟩
  | .full => ⟨"full", "connected to network with full internet access", .success⟩
  | .other n => .unknown s!"state ({n}) was reported but could not be determined"

end Connectivity

inductive WifiDeviceMode where
  | unknown
  | adhoc
  | infra
  | ap
  | mesh
  | other (code : Nat)
  deriving DecidableEq, Repr, Inhabited

namespace WifiDeviceMode

def ofCode : Nat → WifiDeviceMode
  | 0 => .unknown
  | 1 => .adhoc
  | 2 => .infra
  | 3 => .ap
  | 4 => .mesh
  | n => .other n

def code : WifiDeviceMode → Nat
  | .unknown => 0
  | .adhoc => 1
  | .infra => 2
  | .ap => 3
  | .mesh => 4
  | .other n => n

def describe : WifiDeviceMode → Description
  | .unknown => ⟨"unknown", "", .warning⟩
  | .adhoc => ⟨"ad-hoc", "", .info⟩
  | .infra => ⟨"access point", "", .info⟩
  | .ap => ⟨"hotspot", "", .info⟩
  | .mesh => ⟨"mesh", "", .info⟩
  | .other n => .unknown s!"unknown 802.11 mode {n}"

end WifiDeviceMode

structure DeviceCaps where
  bits : UInt32
  deriving DecidableEq, Repr, Inhabited

namespace DeviceCaps

def names : List (String × UInt32) :=
  [("SUPPORTED_BY_NM", 0x1), ("CARRIER_DETECTABLE", 0x2), ("IS_SOFTWARE", 0x4), ("SRIOV", 0x8)]

def hasNone (f : DeviceCaps) : Bool := f.bits == 0
def supportedByNm (f : DeviceCaps) : Bool := Flags.has f.bits 0x1
def carrierDetectable (f : DeviceCaps) : Bool := Flags.has f.bits 0x2
def isSoftware (f : DeviceCaps) : Bool := Flags.has f.bits 0x4
def supportsSriov (f : DeviceCaps) : Bool := Flags.has f.bits 0x8

end DeviceCaps

structure InterfaceFlags where
  bits : UInt32
  deriving DecidableEq, Repr, Inhabited

namespace InterfaceFlags

def names : List (String × UInt32) :=
  [("UP", 0x1), ("LOWER_UP", 0x2), ("PROMISC", 0x4), ("CARRIER", 0x10000), ("LLDP_CLIENT", 0x20000)]

def isUp (f : InterfaceFlags) : Bool := Flags.has f.bits 0x1
def isLowerUp (f : InterfaceFlags) : Bool := Flags.has f.bits 0x2
def isPromiscuous (f : InterfaceFlags) : Bool := Flags.has f.bits 0x4
def hasCarrier (f : InterfaceFlags) : Bool := Flags.has f.bits 0x10000
def lldpClient (f : InterfaceFlags) : Bool := Flags.has f.bits 0x20000

end InterfaceFlags

structure WifiCaps where
  bits : UInt32
  deriving DecidableEq, Repr, Inhabited

namespace WifiCaps

def names : List (String × UInt32) :=
  [("CIPHER_WEP40", 0x1), ("CIPHER_WEP104", 0x2), ("CIPHER_TKIP", 0x4), ("CIPHER_CCMP", 0x8),
    ("WPA", 0x10), ("RSN", 0x20), ("AP", 0x40), ("ADHOC", 0x80), ("FREQ_VALID", 0x100),
    ("FREQ_2GHZ", 0x200), ("FREQ_5GHZ", 0x400), ("FREQ_6GHZ", 0x800), ("MESH", 0x1000),
    ("IBSS_RSN", 0x2000)]

def supportsCcmp (f : WifiCaps) : Bool := Flags.has f.bits 0x8
def supportsRsn (f : WifiCaps) : Bool := Flags.has f.bits 0x20
def supportsAp (f : WifiCaps) : Bool := Flags.has f.bits 0x40
def supportsAdhoc (f : WifiCaps) : Bool := Flags.has f.bits 0x80
def supports2ghz (f : WifiCaps) : Bool := Flags.has f.bits 0x300
def supports5ghz (f : WifiCaps) : Bool := Flags.has f.bits 0x500
def supports6ghz (f : WifiCaps) : Bool := Flags.has f.bits 0x900
def supportsMesh (f : WifiCaps) : Bool := Flags.has f.bits 0x1000
def supportsIbssRsn (f : WifiCaps) : Bool := Flags.has f.bits 0x2000

end WifiCaps

structure RsnFlags where
  bits : UInt32
  deriving DecidableEq, Repr, Inhabited

namespace RsnFlags

def names : List (String × UInt32) :=
  [("PAIR_CCMP", 0x8), ("GROUP_CCMP", 0x80), ("KEY_MGMT_PSK", 0x100), ("KEY_MGMT_SAE", 0x400),
    ("KEY_MGMT_OWE", 0x800), ("KEY_MGMT_EAP_SUITE_B_192", 0x2000)]

def isNone (f : RsnFlags) : Bool := f.bits == 0
def supportsPairCcmp (f : RsnFlags) : Bool := Flags.has f.bits 0x8
def supportsGroupCcmp (f : RsnFlags) : Bool := Flags.has f.bits 0x80
def supportsPsk (f : RsnFlags) : Bool := Flags.has f.bits 0x100
def supportsSae (f : RsnFlags) : Bool := Flags.has f.bits 0x400
def supportsOwe (f : RsnFlags) : Bool := Flags.has f.bits 0x800
def supportsEapSuiteB192 (f : RsnFlags) : Bool := Flags.has f.bits 0x2000

end RsnFlags

end NetConsole
