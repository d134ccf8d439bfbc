import NetConsole.Profile.Basic
import NetConsole.Error.Json
import NetConsole.Text.Utf8

namespace NetConsole

def IpAddress.describe (a : IpAddress) : Json :=
  .obj [("prefix", .str a.ipPrefix.text), ("addr", .str a.ipPrefix.addr.text),
    ("len", .ofNat a.ipPrefix.len), ("is_ipv4", .bool a.ipPrefix.addr.isV4),
    ("attributes", .obj (a.attributes.map fun (k, v) => (k, .str v)))]

def IpAddress.toJson (a : IpAddress) : Json :=
  .obj [("prefix", .obj [("addr", .str a.ipPrefix.addr.text), ("len", .ofNat a.ipPrefix.len)]),
    ("attributes", .obj (a.attributes.map fun (k, v) => (k, .str v)))]

def bytesJson (bytes : List UInt8) : Json := .arr (bytes.map fun b => .ofNat b.toNat)

def choiceSetJson {α : Type} [TextChoice α] (s : ChoiceSet α) : Json := Json.strs s.strings

namespace ConnProfile

def describe (p : ConnProfile) : Json :=
  let c := p.settings.conn
  let w := p.settings.wifi
  let ws := p.settings.wifiSec
  let v4 := p.settings.ipv4
  let v6 := p.settings.ipv6
  .obj [
    ("unsaved", .bool p.unsaved),
    ("filename", .str p.filename),
    ("flags", .obj [("bits", .ofNat p.flags.bits.toNat), ("has_none", .bool p.flags.hasNone),
      ("unsaved", .bool p.flags.unsaved), ("generated_by_nm", .bool p.flags.generatedByNm),
      ("volatile", .bool p.flags.volatile), ("external", .bool p.flags.external)]),
    ("conn", .obj [
      ("auth_retries", .int c.authRetries), ("autoconnect", .bool c.autoconnect),
      ("autoconnect_priority", .int c.autoconnectPriority),
      ("autoconnect_retries", .int c.autoconnectRetries), ("id", .str c.id),
      ("interface_name", .str c.interfaceName), ("stable_id", .str c.stableId),
      ("timestamp", Json.opt Json.ofNat c.timestamp), ("type", .str c.connType.raw),
      ("type_display", .str c.connType.raw), ("type_info", c.connType.describe.toJson),
      ("is_wifi", .bool c.connType.isWifi), ("uuid", .str c.uuid.text), ("zone", .str c.zone)]),
    ("wifi", .obj [
      ("band", .str (TextChoice.raw w.band)), ("band_info", (TextChoice.describe w.band).toJson),
      ("channel", .ofNat w.channel), ("hidden", .bool w.hidden),
      ("mode", .str (TextChoice.raw w.mode)), ("mode_info", (TextChoice.describe w.mode).toJson),
      ("ssid", bytesJson w.ssid), ("ssid_lossy", .str (Text.lossy w.ssid))]),
    ("wifi_sec", .obj [
      ("group", choiceSetJson ws.group), ("group_check", checkJson ws.group.check),
      ("key_mgmt", .str (TextChoice.raw ws.keyMgmt)),
      ("key_mgmt_info", (TextChoice.describe ws.keyMgmt).toJson),
      ("requires_psk", .bool ws.keyMgmt.requiresPsk),
      ("pairwise", choiceSetJson ws.pairwise), ("pairwise_check", checkJson ws.pairwise.check),
      ("proto", choiceSetJson ws.proto), ("proto_check", checkJson ws.proto.check),
      ("psk", .str ws.psk),
      ("psk_flags", .obj [("bits", .ofNat ws.pskFlags.bits.toNat),
        ("agent_owned", .bool ws.pskFlags.agentOwned), ("not_saved", .bool ws.pskFlags.notSaved),
        ("not_required", .bool ws.pskFlags.notRequired)])]),
    ("ipv4", .obj [("addresses", .arr (v4.addresses.map IpAddress.describe)),
      ("method", .str v4.method), ("never_default", .bool v4.neverDefault)]),
    ("ipv6", .obj [("addresses", .arr (v6.addresses.map IpAddress.describe)),
      ("addr_gen_mode", .int v6.addrGenMode), ("method", .str v6.method)])]

def timestampJson (secs : Nat) : Json :=
  .obj [("secs_since_epoch", .ofNat secs), ("nanos_since_epoch", .ofNat 0)]

def toJson (p : ConnProfile) : Json :=
  let c := p.settings.conn
  let w := p.settings.wifi
  let ws := p.settings.wifiSec
  let v4 := p.settings.ipv4
  let v6 := p.settings.ipv6
  .obj [
    ("unsaved", .bool p.unsaved),
    ("flags", .str (Flags.text ProfileFlags.names p.flags.bits)),
    ("filename", .str p.filename),
    ("settings", .obj [
      ("conn", .obj [
        ("auth_retries", .int c.authRetries), ("autoconnect", .bool c.autoconnect),
        ("autoconnect_priority", .int c.autoconnectPriority),
        ("autoconnect_retries", .int c.autoconnectRetries), ("id", .str c.id),
        ("interface_name", .str c.interfaceName), ("stable_id", .str c.stableId),
        ("timestamp", Json.opt timestampJson c.timestamp), ("conn_type", .str c.connType.raw),
        ("uuid", .str c.uuid.text), ("zone", .str c.zone)]),
      ("wifi", .obj [
        ("band", .str (TextChoice.raw w.band)), ("channel", .ofNat w.channel),
        ("hidden", .bool w.hidden), ("mode", .str (TextChoice.raw w.mode)),
        ("ssid", bytesJson w.ssid)]),
      ("wifi_sec", .obj [
        ("group", choiceSetJson ws.group), ("key_mgmt", .str (TextChoice.raw ws.keyMgmt)),
        ("pairwise", choiceSetJson ws.pairwise), ("proto", choiceSetJson ws.proto),
        ("psk_flags", .str (Flags.text PskFlags.names ws.pskFlags.bits))]),
      ("ipv4", .obj [("addresses", .arr (v4.addresses.map IpAddress.toJson)),
        ("method", .str v4.method), ("never_default", .bool v4.neverDefault)]),
      ("ipv6", .obj [("addresses", .arr (v6.addresses.map IpAddress.toJson)),
        ("addr_gen_mode", .int v6.addrGenMode), ("method", .str v6.method)])])]

end ConnProfile

end NetConsole
