import NetConsole.Profile.Choice

namespace NetConsole

inductive ConnType where
  | wifi
  | ethernet
  | unset
  | other (raw : String)
  deriving DecidableEq, Repr, Inhabited

namespace ConnType

def ofRaw : String → ConnType
  | "802-11-wireless" => .wifi
  | "802-3-ethernet" => .ethernet
  | "" => .unset
  | s => .other s

def raw : ConnType → String
  | .wifi => "802-11-wireless"
  | .ethernet => "802-3-ethernet"
  | .unset => ""
  | .other s => s

def isWifi : ConnType → Bool
  | .wifi => true
  | _ => false

def describe : ConnType → Description
  | .wifi => ⟨"wifi", "", .none⟩
  | .ethernet => ⟨"ethernet", "", .none⟩
  | t => ⟨t.raw, "", .none⟩

end ConnType

inductive WifiBand where
  | a
  | bg
  | any
  | other (raw : String)
  deriving DecidableEq, Repr, Inhabited

instance : TextChoice WifiBand where
  ofRaw
    | "a" => .a
    | "bg" => .bg
    | "" => .any
    | s => .other s
  raw
    | .a => "a"
    | .bg => "bg"
    | .any => ""
    | .other s => s
  describe
    | .a => ⟨"a", "802.11a (5 GHz)", .none⟩
    | .bg => ⟨"bg", "802.11b/g (2.4 GHz)", .none⟩
    | .any => ⟨"any", "any available band", .none⟩
    | .other s => .unknown s!"unknown band ({s})"
  known := ["a", "bg", ""]

inductive WifiMode where
  | infrastructure
  | mesh
  | adhoc
  | ap
  | other (raw : String)
  deriving DecidableEq, Repr, Inhabited

instance : TextChoice WifiMode where
  ofRaw
    | "" | "infrastructure" => .infrastructure
    | "mesh" => .mesh
    | "adhoc" => .adhoc
    | "ap" => .ap
    | s => .other s
  raw
    | .infrastructure => "infrastructure"
    | .mesh => "mesh"
    | .adhoc => "adhoc"
    | .ap => "ap"
    | .other s => s
  describe
    | .infrastructure => ⟨"infrastructure", "connect to an external Wi-Fi network", .none⟩
    | .mesh => ⟨"mesh", "connect to a mesh Wi-Fi network", .none⟩
    | .adhoc => ⟨"ad-hoc", "connect to an ad-hoc Wi-Fi network", .none⟩
    | .ap => ⟨"ap", "create a Wi-Fi hotspot", .none⟩
    | .other s => .unknown s!"unknown mode ({s})"
  known := ["infrastructure", "mesh", "adhoc", "ap"]

inductive KeyMgmt where
  | open
  | wep
  | ieee8021x
  | owe
  | wpaPsk
  | wpaEap
  | sae
  | wpaEapSuiteB192
  | other (raw : String)
  deriving DecidableEq, Repr, Inhabited

instance : TextChoice KeyMgmt where
  ofRaw
    | "" => .open
    | "none" => .wep
    | "ieee8021x" => .ieee8021x
    | "owe" => .owe
    | "wpa-psk" => .wpaPsk
    | "wpa-eap" => .wpaEap
    | "sae" => .sae
    | "wpa-eap-suite-b-192" => .wpaEapSuiteB192
    | s => .other s
  raw
    | .open => ""
    | .wep => "none"
    | .ieee8021x => "ieee8021x"
    | .owe => "owe"
    | .wpaPsk => "wpa-psk"
    | .wpaEap => "wpa-eap"
    | .sae => "sae"
    | .wpaEapSuiteB192 => "wpa-eap-suite-b-192"
    | .other s => s
  describe
    | .open => ⟨"none", "no password protection", .none⟩
    | .wep => ⟨"WEP", "WEP (insecure)", .none⟩
    | .ieee8021x => ⟨"IEEE 802.1x", "Dynamic WEP (insecure)", .none⟩
    | .owe => ⟨"OWE", "Opportunistic Wireless Encryption", .none⟩
    | .wpaPsk => ⟨"PSK", "WPA2/3-Personal Pre-Shared Key", .none⟩
    | .wpaEap => ⟨"EAP", "WPA2/3-Enterprise Extensible Authentication Protocol", .none⟩
    | .sae => ⟨"SAE", "WPA3-Personal Simultaneous Authentication of Equals", .none⟩
    | .wpaEapSuiteB192 => ⟨"EAP SuiteB-192",
      "WPA3-Enterprise Extensible Authentication Protocol with SuiteB-192 bit encryption", .none⟩
    | .other s => .unknown s!"unknown key management ({s})"
  known := ["", "none", "ieee8021x", "owe", "wpa-psk", "wpa-eap", "sae", "wpa-eap-suite-b-192"]

def KeyMgmt.requiresPsk : KeyMgmt → Bool
  | .open | .wep | .owe => false
  | _ => true

inductive GroupCipher where
  | wep40
  | wep104
  | tkip
  | ccmp
  | other (raw : String)
  deriving DecidableEq, Repr, Inhabited

instance : TextChoice GroupCipher where
  ofRaw
    | "wep40" => .wep40
    | "wep104" => .wep104
    | "tkip" => .tkip
    | "ccmp" => .ccmp
    | s => .other s
  raw
    | .wep40 => "wep40"
    | .wep104 => "wep104"
    | .tkip => "tkip"
    | .ccmp => "ccmp"
    | .other s => s
  describe
    | .wep40 => ⟨"WEP-40", "Wired Equivalent Privacy with 40-bit key (WEP, insecure)", .none⟩
    | .wep104 => ⟨"WEP-104", "Wired Equivalent Privacy with 104-bit key (WEP, insecure)", .none⟩
    | .tkip => ⟨"TKIP", "Temporal Key Integrity Protocol (WPA, insecure)", .none⟩
    | .ccmp => ⟨"AES/CCMP", "CCM mode Protocol (WPA2/3)", .none⟩
    | .other s => .unknown s!"unknown group/broadcast encryption algorithm ({s})"
  known := ["wep40", "wep104", "tkip", "ccmp"]

inductive PairwiseCipher where
  | tkip
  | ccmp
  | other (raw : String)
  deriving DecidableEq, Repr, Inhabited

instance : TextChoice PairwiseCipher where
  ofRaw
    | "tkip" => .tkip
    | "ccmp" => .ccmp
    | s => .other s
  raw
    | .tkip => "tkip"
    | .ccmp => "ccmp"
    | .other s => s
  describe
    | .tkip => ⟨"TKIP", "Temporal Key Integrity Protocol (WPA, insecure)", .none⟩
    | .ccmp => ⟨"AES/CCMP", "CCM mode Protocol (WPA2/3)", .none⟩
    | .other s => .unknown s!"unknown pairwise encryption algorithm ({s})"
  known := ["tkip", "ccmp"]

inductive WpaProto where
  | wpa
  | rsn
  | other (raw : String)
  deriving DecidableEq, Repr, Inhabited

instance : TextChoice WpaProto where
  ofRaw
    | "wpa" => .wpa
    | "rsn" => .rsn
    | s => .other s
  raw
    | .wpa => "wpa"
    | .rsn => "rsn"
    | .other s => s
  describe
    | .wpa => ⟨"WPA", "Wi-Fi Protected Access (insecure)", .none⟩
    | .rsn => ⟨"WPA2/RSN", "Wi-Fi Protected Access 2/3 (Robust Security Network)", .none⟩
    | .other s => .unknown s!"unknown WPA protocol version ({s})"
  known := ["wpa", "rsn"]

end NetConsole
