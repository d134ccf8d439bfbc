import NetConsole.Profile.Kinds
import NetConsole.Profile.Flags
import NetConsole.Net.Address
import NetConsole.Uuid

namespace NetConsole

structure IpPrefix where
  addr : IpAddr
  len : Nat
  deriving DecidableEq, Repr, Inhabited

def IpPrefix.text (p : IpPrefix) : String := p.addr.text ++ "/" ++ toString p.len

structure IpAddress where
  ipPrefix : IpPrefix
  attributes : List (String × String)
  deriving DecidableEq, Repr, Inhabited

structure ConnSettings where
  authRetries : Int
  autoconnect : Bool
  autoconnectPriority : Int
  autoconnectRetries : Int
  id : String
  interfaceName : String
  stableId : String
  timestamp : Option Nat  -- seconds since the epoch
  connType : ConnType
  uuid : Uuid
  zone : String
  deriving DecidableEq, Repr, Inhabited

structure WifiSettings where
  band : WifiBand := .any
  channel : Nat := 0
  hidden : Bool := false
  mode : WifiMode := .infrastructure
  ssid : List UInt8 := []
  deriving DecidableEq, Repr, Inhabited

structure WifiSecSettings where
  group : ChoiceSet GroupCipher := ⟨[]⟩
  keyMgmt : KeyMgmt := .open
  pairwise : ChoiceSet PairwiseCipher := ⟨[]⟩
  proto : ChoiceSet WpaProto := ⟨[]⟩
  psk : String := ""  -- empty unless the secrets could be read
  pskFlags : PskFlags := ⟨0⟩
  deriving DecidableEq, Repr, Inhabited

structure Ipv4Settings where
  addresses : List IpAddress := []
  method : String := ""
  neverDefault : Bool := false
  deriving DecidableEq, Repr, Inhabited

structure Ipv6Settings where
  addresses : List IpAddress := []
  addrGenMode : Int := 0
  method : String := ""
  deriving DecidableEq, Repr, Inhabited

structure ProfileSettings where
  conn : ConnSettings
  wifi : WifiSettings
  wifiSec : WifiSecSettings
  ipv4 : Ipv4Settings
  ipv6 : Ipv6Settings
  deriving DecidableEq, Repr, Inhabited

structure ProfileMeta where
  unsaved : Bool := false
  flags : Nat := 0
  filename : String := ""
  deriving DecidableEq, Repr, Inhabited

structure ConnProfile where
  unsaved : Bool
  flags : ProfileFlags
  filename : String
  settings : ProfileSettings
  deriving DecidableEq, Repr, Inhabited

end NetConsole
