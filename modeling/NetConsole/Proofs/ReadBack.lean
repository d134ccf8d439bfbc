import NetConsole.Proofs.Decode
import NetConsole.Proofs.Merge
import NetConsole.Proofs.Translation

/-! Reading a profile back after merging updates into its settings: writing an update changes,
of what decoding reads, its own field only, and the PSK not at all, since decoding takes it from
the secrets. -/

namespace NetConsole

open NetConsole.Bus (Value)
open RawSection (required optional)

namespace ProfileSettings

def withWifi (p : ProfileSettings) (w : WifiSettings) : ProfileSettings :=
  if p.conn.connType.isWifi then { p with wifi := w } else p

def withWifiSec (p : ProfileSettings) (w : WifiSecSettings) : ProfileSettings :=
  if p.conn.connType.isWifi then { p with wifiSec := w } else p

end ProfileSettings

/-- The settings with the field an update submits set to the submitted value. The PSK is kept,
since decoding reads it from the secrets. -/
def Update.setIn (p : ProfileSettings) : Update → ProfileSettings
  | .autoconnect b => { p with conn := { p.conn with autoconnect := b } }
  | .autoconnectPriority n => { p with conn := { p.conn with autoconnectPriority := n } }
  | .band b => p.withWifi { p.wifi with band := b }
  | .channel c => p.withWifi { p.wifi with channel := c }
  | .hidden h => p.withWifi { p.wifi with hidden := h }
  | .mode m => p.withWifi { p.wifi with mode := m }
  | .ssid bytes => p.withWifi { p.wifi with ssid := bytes }
  | .group s => p.withWifiSec { p.wifiSec with group := s }
  | .keyMgmt k => p.withWifiSec { p.wifiSec with keyMgmt := k }
  | .pairwise s => p.withWifiSec { p.wifiSec with pairwise := s }
  | .proto s => p.withWifiSec { p.wifiSec with proto := s }
  | .psk _ => p

def ProfileSettings.edit (p : ProfileSettings) (us : Updates) : ProfileSettings :=
  us.items.foldl Update.setIn p

theorem Update.setIn_psk (p : ProfileSettings) (u : Update) :
    (u.setIn p).wifiSec.psk = p.wifiSec.psk := by
  by_cases wifi : p.conn.connType.isWifi = true <;>
    cases u <;> simp [Update.setIn, ProfileSettings.withWifi, ProfileSettings.withWifiSec, wifi]

theorem ProfileSettings.edit_psk (p : ProfileSettings) (us : Updates) :
    (p.edit us).wifiSec.psk = p.wifiSec.psk := by
  unfold edit
  induction us.items generalizing p with
  | nil => rfl
  | cons u rest ih => rw [List.foldl_cons, ih, Update.setIn_psk]

namespace Bus.Value

theorem asInt32?_ofInt {n : Int} (lower : -999 ≤ n) (upper : n ≤ 999) :
    (Value.int32 (Int32.ofInt n)).asInt32? = some n := by
  simp only [asInt32?, Option.some.injEq]
  exact Int32.toInt_ofInt_of_le (by omega) (by omega)

theorem asUInt32?_toUInt32 {n : Nat} (upper : n ≤ 999) :
    (Value.uint32 n.toUInt32).asUInt32? = some n := by
  simp only [asUInt32?, Option.some.injEq]
  simp
  omega

theorem asBytes?_bytes (bytes : List UInt8) :
    (Value.array .byte (bytes.map .byte)).asBytes? = some bytes := by
  simp only [asBytes?, itemsAs?]
  induction bytes with
  | nil => rfl
  | cons b rest ih =>
      simp only [List.map_cons, List.mapM_cons, ih]
      rfl

theorem asStrings?_textArray (texts : List String) :
    (Update.textArray texts).asStrings? = some texts := by
  simp only [asStrings?, itemsAs?, Update.textArray]
  induction texts with
  | nil => rfl
  | cons t rest ih =>
      simp only [List.map_cons, List.mapM_cons, ih]
      rfl

end Bus.Value

theorem ChoiceSet.Valid.ofRaws_strings {α : Type} [TextChoice α] {s : ChoiceSet α} (valid : s.Valid)
    (roundTrip : ∀ {a : α}, TextChoice.check a = .ok () → TextChoice.ofRaw (TextChoice.raw a) = a) :
    ChoiceSet.ofRaws s.strings = s := by
  obtain ⟨members⟩ := s
  simp only [ChoiceSet.ofRaws, ChoiceSet.strings, List.map_map, ChoiceSet.mk.injEq]
  exact (List.map_congr_left fun a member => roundTrip (valid.1 a member)).trans (List.map_id members)

namespace RawSection

section Writes

variable {α : Type} {s : Option RawSection} {key k : String} {v : Value} {name : Option String}
  {read : Value → Option α}

theorem bind_get?_write (s : Option RawSection) (key k : String) (v : Value) :
    (some (Table.insert key v (s.getD []))).bind (·.get? k) =
      if k = key then some v else s.bind (·.get? k) := by
  cases s <;> by_cases here : k = key <;> simp [Table.get?_insert, here]

theorem bind_get?_erase (s : Option RawSection) (key k : String) :
    (s.map (Table.erase key)).bind (·.get? k) = if k = key then none else s.bind (·.get? k) := by
  cases s <;> by_cases here : k = key <;> simp [Table.get?_erase, here]

theorem optional_write_self {a : α} (typed : read v = some a) (default : α) :
    optional (some (Table.insert key v (s.getD []))) key name read default = .ok a :=
  optional_of_read (by rw [bind_get?_write, if_pos rfl]) typed default

theorem optional_write_other (other : k ≠ key) (default : α) :
    optional (some (Table.insert key v (s.getD []))) k name read default =
      optional s k name read default :=
  optional_congr (by rw [bind_get?_write, if_neg other]) default

theorem required_write_other (other : k ≠ key) :
    required (some (Table.insert key v (s.getD []))) k name read = required s k name read :=
  required_congr (by rw [bind_get?_write, if_neg other])

theorem optional_erase_self (default : α) :
    optional (s.map (Table.erase key)) key name read default = .ok default :=
  optional_of_absent (by rw [bind_get?_erase, if_pos rfl]) default

theorem optional_erase_other (other : k ≠ key) (default : α) :
    optional (s.map (Table.erase key)) k name read default = optional s k name read default :=
  optional_congr (by rw [bind_get?_erase, if_neg other]) default

end Writes

end RawSection

namespace ProfileSettings

open RawSection

section Connection

variable {s : Option RawSection} {c : ConnSettings} (decoded : decodeConn s = .ok c)
include decoded

theorem decodeConn_write_autoconnect (b : Bool) :
    decodeConn (some (Table.insert "autoconnect" (.bool b) (s.getD []))) =
      .ok { c with autoconnect := b } := by
  obtain ⟨head, secs, zone, rh, rs, rz, rfl⟩ := decodeConn_eq_ok_iff.mp decoded
  obtain ⟨rawUuid, uuid, rawType, ar, ac, ap, arr, id, ifn, sid, ru, parsed, rt, rar, rac, rap,
    rarr, rid, rifn, rsid, rfl⟩ := decodeConnHead_eq_ok_iff.mp rh
  refine decodeConn_eq_ok_iff.mpr ⟨⟨uuid, rawType, ar, b, ap, arr, id, ifn, sid⟩, secs, zone,
    decodeConnHead_eq_ok_iff.mpr ⟨rawUuid, uuid, rawType, ar, b, ap, arr, id, ifn, sid, ?_, parsed,
      ?_, ?_, optional_write_self (show Value.asBool? (.bool b) = some b from rfl) _, ?_, ?_, ?_,
      ?_, ?_, rfl⟩, ?_, ?_, rfl⟩ <;>
    simpa [readTimestamp, optional_write_other, required_write_other]

theorem decodeConn_write_autoconnectPriority {n : Int} (lower : -999 ≤ n) (upper : n ≤ 999) :
    decodeConn (some (Table.insert "autoconnect-priority" (.int32 (Int32.ofInt n)) (s.getD []))) =
      .ok { c with autoconnectPriority := n } := by
  obtain ⟨head, secs, zone, rh, rs, rz, rfl⟩ := decodeConn_eq_ok_iff.mp decoded
  obtain ⟨rawUuid, uuid, rawType, ar, ac, ap, arr, id, ifn, sid, ru, parsed, rt, rar, rac, rap,
    rarr, rid, rifn, rsid, rfl⟩ := decodeConnHead_eq_ok_iff.mp rh
  refine decodeConn_eq_ok_iff.mpr ⟨⟨uuid, rawType, ar, ac, n, arr, id, ifn, sid⟩, secs, zone,
    decodeConnHead_eq_ok_iff.mpr ⟨rawUuid, uuid, rawType, ar, ac, n, arr, id, ifn, sid, ?_, parsed,
      ?_, ?_, ?_, optional_write_self (Value.asInt32?_ofInt lower upper) _, ?_, ?_, ?_, ?_, rfl⟩,
    ?_, ?_, rfl⟩ <;>
    simpa [readTimestamp, optional_write_other, required_write_other]

end Connection

section Wifi

variable {s : Option RawSection} {w : WifiSettings} (decoded : decodeWifi s = .ok w)
include decoded

theorem decodeWifi_write_band {b : WifiBand} (checked : TextChoice.check b = .ok ()) :
    decodeWifi (some (Table.insert "band" (.string (TextChoice.raw b)) (s.getD []))) =
      .ok { w with band := b } := by
  obtain ⟨band, mode, channel, hidden, ssid, rb, rm, rc, rh, rs, rfl⟩ := decodeWifi_eq_ok_iff.mp decoded
  refine decodeWifi_eq_ok_iff.mpr ⟨TextChoice.raw b, mode, channel, hidden, ssid,
    optional_write_self (show Value.asString? (.string (TextChoice.raw b)) = some _ from rfl) _,
    ?_, ?_, ?_, ?_, by rw [WifiBand.ofRaw_raw checked]⟩ <;>
    simpa [optional_write_other]

theorem decodeWifi_erase_band : decodeWifi (s.map (Table.erase "band")) = .ok { w with band := .any } := by
  obtain ⟨band, mode, channel, hidden, ssid, rb, rm, rc, rh, rs, rfl⟩ := decodeWifi_eq_ok_iff.mp decoded
  refine decodeWifi_eq_ok_iff.mpr ⟨"", mode, channel, hidden, ssid, optional_erase_self _,
    ?_, ?_, ?_, ?_, rfl⟩ <;>
    simpa [optional_erase_other]

theorem decodeWifi_write_channel {c : Nat} (upper : c ≤ 999) :
    decodeWifi (some (Table.insert "channel" (.uint32 c.toUInt32) (s.getD []))) =
      .ok { w with channel := c } := by
  obtain ⟨band, mode, channel, hidden, ssid, rb, rm, rc, rh, rs, rfl⟩ := decodeWifi_eq_ok_iff.mp decoded
  refine decodeWifi_eq_ok_iff.mpr ⟨band, mode, c, hidden, ssid, ?_, ?_,
    optional_write_self (Value.asUInt32?_toUInt32 upper) _, ?_, ?_, rfl⟩ <;>
    simpa [optional_write_other]

theorem decodeWifi_write_hidden (h : Bool) :
    decodeWifi (some (Table.insert "hidden" (.bool h) (s.getD []))) = .ok { w with hidden := h } := by
  obtain ⟨band, mode, channel, hidden, ssid, rb, rm, rc, rh, rs, rfl⟩ := decodeWifi_eq_ok_iff.mp decoded
  refine decodeWifi_eq_ok_iff.mpr ⟨band, mode, channel, h, ssid, ?_, ?_, ?_,
    optional_write_self (show Value.asBool? (.bool h) = some h from rfl) _, ?_, rfl⟩ <;>
    simpa [optional_write_other]

theorem decodeWifi_write_mode {m : WifiMode} (checked : TextChoice.check m = .ok ()) :
    decodeWifi (some (Table.insert "mode" (.string (TextChoice.raw m)) (s.getD []))) =
      .ok { w with mode := m } := by
  obtain ⟨band, mode, channel, hidden, ssid, rb, rm, rc, rh, rs, rfl⟩ := decodeWifi_eq_ok_iff.mp decoded
  refine decodeWifi_eq_ok_iff.mpr ⟨band, TextChoice.raw m, channel, hidden, ssid, ?_,
    optional_write_self (show Value.asString? (.string (TextChoice.raw m)) = some _ from rfl) _,
    ?_, ?_, ?_, by rw [WifiMode.ofRaw_raw checked]⟩ <;>
    simpa [optional_write_other]

theorem decodeWifi_write_ssid (bytes : List UInt8) :
    decodeWifi (some (Table.insert "ssid" (.array .byte (bytes.map .byte)) (s.getD []))) =
      .ok { w with ssid := bytes } := by
  obtain ⟨band, mode, channel, hidden, ssid, rb, rm, rc, rh, rs, rfl⟩ := decodeWifi_eq_ok_iff.mp decoded
  refine decodeWifi_eq_ok_iff.mpr ⟨band, mode, channel, hidden, bytes, ?_, ?_, ?_, ?_,
    optional_write_self (Value.asBytes?_bytes bytes) _, rfl⟩ <;>
    simpa [optional_write_other]

end Wifi

section WifiSec

variable {s secrets : Option RawSection} {ws : WifiSecSettings}
  (decoded : decodeWifiSec s secrets = .ok ws)
include decoded

theorem decodeWifiSec_write_group {g : ChoiceSet GroupCipher} (valid : g.Valid) :
    decodeWifiSec (some (Table.insert "group" (Update.textArray g.strings) (s.getD []))) secrets =
      .ok { ws with group := g } := by
  obtain ⟨fields, read, rfl⟩ := decodeWifiSec_eq_ok_iff.mp decoded
  obtain ⟨group, keyMgmt, pairwise, proto, pskFlags, rg, rk, rp, rr, rf, rfl⟩ :=
    decodeWifiSecFields_eq_ok_iff.mp read
  refine decodeWifiSec_eq_ok_iff.mpr ⟨_, decodeWifiSecFields_eq_ok_iff.mpr ⟨g.strings, keyMgmt,
    pairwise, proto, pskFlags, optional_write_self (Value.asStrings?_textArray _) _, ?_, ?_, ?_, ?_,
    rfl⟩, by rw [valid.ofRaws_strings GroupCipher.ofRaw_raw]⟩ <;>
    simpa [optional_write_other]

theorem decodeWifiSec_write_keyMgmt {k : KeyMgmt} (checked : TextChoice.check k = .ok ()) :
    decodeWifiSec (some (Table.insert "key-mgmt" (.string (TextChoice.raw k)) (s.getD []))) secrets =
      .ok { ws with keyMgmt := k } := by
  obtain ⟨fields, read, rfl⟩ := decodeWifiSec_eq_ok_iff.mp decoded
  obtain ⟨group, keyMgmt, pairwise, proto, pskFlags, rg, rk, rp, rr, rf, rfl⟩ :=
    decodeWifiSecFields_eq_ok_iff.mp read
  refine decodeWifiSec_eq_ok_iff.mpr ⟨_, decodeWifiSecFields_eq_ok_iff.mpr ⟨group,
    TextChoice.raw k, pairwise, proto, pskFlags, ?_,
    optional_write_self (show Value.asString? (.string (TextChoice.raw k)) = some _ from rfl) _,
    ?_, ?_, ?_, rfl⟩, by rw [KeyMgmt.ofRaw_raw checked]⟩ <;>
    simpa [optional_write_other]

theorem decodeWifiSec_write_pairwise {g : ChoiceSet PairwiseCipher} (valid : g.Valid) :
    decodeWifiSec (some (Table.insert "pairwise" (Update.textArray g.strings) (s.getD []))) secrets =
      .ok { ws with pairwise := g } := by
  obtain ⟨fields, read, rfl⟩ := decodeWifiSec_eq_ok_iff.mp decoded
  obtain ⟨group, keyMgmt, pairwise, proto, pskFlags, rg, rk, rp, rr, rf, rfl⟩ :=
    decodeWifiSecFields_eq_ok_iff.mp read
  refine decodeWifiSec_eq_ok_iff.mpr ⟨_, decodeWifiSecFields_eq_ok_iff.mpr ⟨group, keyMgmt,
    g.strings, proto, pskFlags, ?_, ?_, optional_write_self (Value.asStrings?_textArray _) _, ?_, ?_,
    rfl⟩, by rw [valid.ofRaws_strings PairwiseCipher.ofRaw_raw]⟩ <;>
    simpa [optional_write_other]

theorem decodeWifiSec_write_proto {g : ChoiceSet WpaProto} (valid : g.Valid) :
    decodeWifiSec (some (Table.insert "proto" (Update.textArray g.strings) (s.getD []))) secrets =
      .ok { ws with proto := g } := by
  obtain ⟨fields, read, rfl⟩ := decodeWifiSec_eq_ok_iff.mp decoded
  obtain ⟨group, keyMgmt, pairwise, proto, pskFlags, rg, rk, rp, rr, rf, rfl⟩ :=
    decodeWifiSecFields_eq_ok_iff.mp read
  refine decodeWifiSec_eq_ok_iff.mpr ⟨_, decodeWifiSecFields_eq_ok_iff.mpr ⟨group, keyMgmt,
    pairwise, g.strings, pskFlags, ?_, ?_, ?_, optional_write_self (Value.asStrings?_textArray _) _,
    ?_, rfl⟩, by rw [valid.ofRaws_strings WpaProto.ofRaw_raw]⟩ <;>
    simpa [optional_write_other]

theorem decodeWifiSec_write_psk (v : Value) :
    decodeWifiSec (some (Table.insert "psk" v (s.getD []))) secrets = .ok ws := by
  obtain ⟨fields, read, rfl⟩ := decodeWifiSec_eq_ok_iff.mp decoded
  obtain ⟨group, keyMgmt, pairwise, proto, pskFlags, rg, rk, rp, rr, rf, rfl⟩ :=
    decodeWifiSecFields_eq_ok_iff.mp read
  refine decodeWifiSec_eq_ok_iff.mpr ⟨_, decodeWifiSecFields_eq_ok_iff.mpr ⟨group, keyMgmt,
    pairwise, proto, pskFlags, ?_, ?_, ?_, ?_, ?_, rfl⟩, rfl⟩ <;>
    simpa [optional_write_other]

end WifiSec

section Frame

variable {raw raw' : RawSettings} {secrets : Option RawSettings} {p : ProfileSettings}
  (decoded : decode raw secrets = .ok p)
include decoded

theorem decode_of_connection {c : ConnSettings}
    (others : ∀ setting, setting ≠ Setting.connection → raw'.get? setting = raw.get? setting)
    (conn : decodeConn (raw'.get? Setting.connection) = .ok c) (kind : c.connType = p.conn.connType) :
    decode raw' secrets = .ok { p with conn := c } := by
  obtain ⟨-, sections, ipv4, ipv6⟩ := decode_eq_ok_iff.mp decoded
  refine decode_eq_ok_iff.mpr ⟨conn, ?_, ?_, ?_⟩
  · rw [others _ (by decide), others _ (by decide)]
    simpa only [kind] using sections
  · rw [others _ (by decide)]
    exact ipv4
  · rw [others _ (by decide)]
    exact ipv6

theorem decode_of_wifi {w : WifiSettings}
    (others : ∀ setting, setting ≠ Setting.wifi → raw'.get? setting = raw.get? setting)
    (wifi : p.conn.connType.isWifi = true → decodeWifi (raw'.get? Setting.wifi) = .ok w) :
    decode raw' secrets = .ok (p.withWifi w) := by
  obtain ⟨conn, sections, ipv4, ipv6⟩ := decode_eq_ok_iff.mp decoded
  rw [← others _ (by decide)] at conn ipv4 ipv6
  rw [← others Setting.wifiSecurity (by decide)] at sections
  unfold withWifi
  by_cases isWifi : p.conn.connType.isWifi = true
  · rw [if_pos isWifi] at sections ⊢
    exact decode_eq_ok_iff.mpr
      ⟨conn, by simpa [isWifi] using ⟨wifi isWifi, sections.2⟩, ipv4, ipv6⟩
  · rw [if_neg isWifi]
    exact decode_eq_ok_iff.mpr ⟨conn, by simpa [isWifi] using sections, ipv4, ipv6⟩

theorem decode_of_wifiSec {ws : WifiSecSettings}
    (others : ∀ setting, setting ≠ Setting.wifiSecurity → raw'.get? setting = raw.get? setting)
    (wifiSec : p.conn.connType.isWifi = true →
      decodeWifiSec (raw'.get? Setting.wifiSecurity) (secrets.bind (·.get? Setting.wifiSecurity)) =
        .ok ws) :
    decode raw' secrets = .ok (p.withWifiSec ws) := by
  obtain ⟨conn, sections, ipv4, ipv6⟩ := decode_eq_ok_iff.mp decoded
  rw [← others _ (by decide)] at conn ipv4 ipv6
  rw [← others Setting.wifi (by decide)] at sections
  unfold withWifiSec
  by_cases isWifi : p.conn.connType.isWifi = true
  · rw [if_pos isWifi] at sections ⊢
    exact decode_eq_ok_iff.mpr
      ⟨conn, by simpa [isWifi] using ⟨sections.1, wifiSec isWifi⟩, ipv4, ipv6⟩
  · rw [if_neg isWifi]
    exact decode_eq_ok_iff.mpr ⟨conn, by simpa [isWifi] using sections, ipv4, ipv6⟩

theorem decodeConn_of_decode : decodeConn (raw.get? Setting.connection) = .ok p.conn :=
  (decode_eq_ok_iff.mp decoded).1

theorem decodeWifi_of_decode (isWifi : p.conn.connType.isWifi = true) :
    decodeWifi (raw.get? Setting.wifi) = .ok p.wifi := by
  have sections := (decode_eq_ok_iff.mp decoded).2.1
  rw [if_pos isWifi] at sections
  exact sections.1

theorem decodeWifiSec_of_decode (isWifi : p.conn.connType.isWifi = true) :
    decodeWifiSec (raw.get? Setting.wifiSecurity) (secrets.bind (·.get? Setting.wifiSecurity)) =
      .ok p.wifiSec := by
  have sections := (decode_eq_ok_iff.mp decoded).2.1
  rw [if_pos isWifi] at sections
  exact sections.2

end Frame

theorem decode_applyUpdate {raw : RawSettings} {secrets : Option RawSettings} {p : ProfileSettings}
    (decoded : decode raw secrets = .ok p) {u : Update} (valid : u.Valid) :
    decode (RawSettings.applyUpdate raw u) secrets = .ok (u.setIn p) := by
  have others : ∀ setting, setting ≠ u.key.setting →
      (RawSettings.applyUpdate raw u).get? setting = raw.get? setting := fun _ other => by
    rw [RawSettings.get?_applyUpdate, if_neg other]
  have written := RawSettings.get?_applyUpdate_written raw u
  -- each update writes one key of one section; the other sections read as before
  cases u <;>
    dsimp only [Update.key, Update.toValue, Update.clearsBand, Update.Valid] at written others valid
  case autoconnect b =>
    refine decode_of_connection decoded others ?_ rfl
    rw [written rfl]
    exact decodeConn_write_autoconnect (decodeConn_of_decode decoded) b
  case autoconnectPriority n =>
    refine decode_of_connection decoded others ?_ rfl
    rw [written rfl]
    exact decodeConn_write_autoconnectPriority (decodeConn_of_decode decoded) valid.1 valid.2
  case band b =>
    refine decode_of_wifi decoded others fun isWifi => ?_
    have before := decodeWifi_of_decode decoded isWifi
    by_cases clears : (TextChoice.raw b).isEmpty = true
    · -- the "any" band removes the key, which then reads as "any"
      have cleared : (RawSettings.applyUpdate raw (.band b)).get? Setting.wifi =
          (raw.get? Setting.wifi).map (Table.erase "band") := by
        rw [RawSettings.get?_applyUpdate]
        simp [Update.key, Update.clearsBand, clears]
      rw [cleared, WifiBand.eq_any_of_isEmpty valid clears]
      exact decodeWifi_erase_band before
    · rw [written (by simpa using clears)]
      exact decodeWifi_write_band before valid
  case channel c =>
    refine decode_of_wifi decoded others fun isWifi => ?_
    rw [written rfl]
    exact decodeWifi_write_channel (decodeWifi_of_decode decoded isWifi) valid
  case hidden h =>
    refine decode_of_wifi decoded others fun isWifi => ?_
    rw [written rfl]
    exact decodeWifi_write_hidden (decodeWifi_of_decode decoded isWifi) h
  case mode m =>
    refine decode_of_wifi decoded others fun isWifi => ?_
    rw [written rfl]
    exact decodeWifi_write_mode (decodeWifi_of_decode decoded isWifi) valid
  case ssid bytes =>
    refine decode_of_wifi decoded others fun isWifi => ?_
    rw [written rfl]
    exact decodeWifi_write_ssid (decodeWifi_of_decode decoded isWifi) bytes
  case group g =>
    refine decode_of_wifiSec decoded others fun isWifi => ?_
    rw [written rfl]
    exact decodeWifiSec_write_group (decodeWifiSec_of_decode decoded isWifi) valid
  case keyMgmt k =>
    refine decode_of_wifiSec decoded others fun isWifi => ?_
    rw [written rfl]
    exact decodeWifiSec_write_keyMgmt (decodeWifiSec_of_decode decoded isWifi) valid
  case pairwise g =>
    refine decode_of_wifiSec decoded others fun isWifi => ?_
    rw [written rfl]
    exact decodeWifiSec_write_pairwise (decodeWifiSec_of_decode decoded isWifi) valid
  case proto g =>
    refine decode_of_wifiSec decoded others fun isWifi => ?_
    rw [written rfl]
    exact decodeWifiSec_write_proto (decodeWifiSec_of_decode decoded isWifi) valid
  case psk key =>
    -- the settings keep the written PSK, but decoding reads it from the secrets
    have kept := decode_of_wifiSec decoded others fun isWifi => by
      rw [written rfl]
      exact decodeWifiSec_write_psk (decodeWifiSec_of_decode decoded isWifi) _
    simpa [withWifiSec, Update.setIn] using kept

theorem decode_foldl_applyUpdate {secrets : Option RawSettings} (l : List Update)
    (valid : ∀ u ∈ l, u.Valid) {raw : RawSettings} {p : ProfileSettings}
    (decoded : decode raw secrets = .ok p) :
    decode (l.foldl RawSettings.applyUpdate raw) secrets = .ok (l.foldl Update.setIn p) := by
  induction l generalizing raw p with
  | nil => exact decoded
  | cons u rest ih =>
      exact ih (fun v member => valid v (List.mem_cons_of_mem u member))
        (decode_applyUpdate decoded (valid u List.mem_cons_self))

theorem decode_stripLegacy (raw : RawSettings) (secrets : Option RawSettings) :
    decode (RawSettings.stripLegacy raw) secrets = decode raw secrets := by
  have kept : ∀ setting, setting ≠ Setting.ipv4 → setting ≠ Setting.ipv6 →
      (RawSettings.stripLegacy raw).get? setting = raw.get? setting := fun setting v4 v6 => by
    rw [RawSettings.get?_stripLegacy]
    simp [v4, v6]
  have read : ∀ setting key, key ∉ RawSettings.legacyKeys →
      ((RawSettings.stripLegacy raw).get? setting).bind (·.get? key) =
        (raw.get? setting).bind (·.get? key) := fun setting key current => by
    have stripped := RawSettings.valueAt_stripLegacy raw setting key
    simp only [RawSettings.valueAt] at stripped
    rw [stripped, if_neg fun legacy => current legacy.2]
  have ipv4 : decodeIpv4 ((RawSettings.stripLegacy raw).get? Setting.ipv4) =
      decodeIpv4 (raw.get? Setting.ipv4) := decodeIpv4_congr fun key member => read _ key <| by
    simp only [List.mem_cons, List.not_mem_nil, or_false] at member
    rcases member with rfl | rfl | rfl <;> decide
  have ipv6 : decodeIpv6 ((RawSettings.stripLegacy raw).get? Setting.ipv6) =
      decodeIpv6 (raw.get? Setting.ipv6) := decodeIpv6_congr fun key member => read _ key <| by
    simp only [List.mem_cons, List.not_mem_nil, or_false] at member
    rcases member with rfl | rfl | rfl <;> decide
  unfold decode
  rw [kept Setting.connection (by decide) (by decide), kept Setting.wifi (by decide) (by decide),
    kept Setting.wifiSecurity (by decide) (by decide), ipv4, ipv6]

/-- Removing the Wi-Fi security section leaves its settings at their defaults, all but the PSK,
which decoding reads from the secrets. -/
theorem decode_erase_wifiSecurity {raw : RawSettings} {secrets : Option RawSettings}
    {p : ProfileSettings} (decoded : decode raw secrets = .ok p) :
    decode (Table.erase Setting.wifiSecurity raw) secrets =
      .ok { p with wifiSec := { psk := p.wifiSec.psk } } := by
  have others : ∀ setting, setting ≠ Setting.wifiSecurity →
      (Table.erase Setting.wifiSecurity raw).get? setting = raw.get? setting := fun _ other => by
    rw [Table.get?_erase, if_neg other]
  have defaults : p.conn.connType.isWifi = true →
      decodeWifiSec ((Table.erase Setting.wifiSecurity raw).get? Setting.wifiSecurity)
        (secrets.bind (·.get? Setting.wifiSecurity)) = .ok { psk := p.wifiSec.psk } := fun isWifi => by
    obtain ⟨fields, -, read⟩ := decodeWifiSec_eq_ok_iff.mp (decodeWifiSec_of_decode decoded isWifi)
    rw [Table.get?_erase, if_pos rfl, read]
    rfl
  have erased := decode_of_wifiSec decoded others defaults
  by_cases isWifi : p.conn.connType.isWifi = true
  · simpa [withWifiSec, isWifi] using erased
  · -- a profile of another type already reads the default security settings
    have sections := (decode_eq_ok_iff.mp decoded).2.1
    rw [if_neg isWifi] at sections
    have unchanged : { p with wifiSec := { psk := p.wifiSec.psk } } = p := by
      obtain ⟨conn, wifi, wifiSec, ipv4, ipv6⟩ := p
      dsimp only at sections ⊢
      rw [sections.2]
    rw [unchanged]
    simpa [withWifiSec, isWifi] using erased

/-- Decoding the merged settings reads the profile with each accepted update's field set; when
the key management in effect is open, the security settings are back at their defaults but for
the PSK, which comes from the secrets. -/
theorem merged_settings_read_back (raw : RawSettings) (secrets : Option RawSettings)
    (p : ProfileSettings) (form : Form) (us : Updates)
    (decoded : decode raw secrets = .ok p) (accepted : form.translate = .ok us) :
    decode (RawSettings.merge raw us) secrets =
      .ok (if RawSettings.resolvesToOpen raw us then
          { p.edit us with wifiSec := { psk := p.wifiSec.psk } }
        else p.edit us) := by
  have written : decode (us.items.foldl RawSettings.applyUpdate (RawSettings.stripLegacy raw))
      secrets = .ok (p.edit us) :=
    decode_foldl_applyUpdate us.items (Form.valid_of_translate accepted)
      ((decode_stripLegacy raw secrets).trans decoded)
  dsimp only [RawSettings.merge]
  rw [RawSettings.resolvesToOpen_written (List.Perm.refl _) raw]
  split
  · rw [decode_erase_wifiSecurity written, ProfileSettings.edit_psk]
  · exact written

/-- A Wi-Fi profile set to any band and the open key management, no longer connecting on its own
and hidden. -/
theorem opened_network_reads_back :
    let raw : RawSettings := [("connection", [("uuid", .string "0b2c7e9a-5f43-4d2e-9a1b-3c4d5e6f7a8b"),
        ("type", .string "802-11-wireless"), ("id", .string "home"),
        ("interface-name", .string "wlan0")]),
      ("802-11-wireless", [("band", .string "bg")]),
      ("802-11-wireless-security", [("key-mgmt", .string "wpa-psk")])]
    let form := Form.ofPairs [("802-11-wireless.band", ""), ("802-11-wireless.hidden", "true"),
      ("802-11-wireless-security.key-mgmt", ""), ("connection.autoconnect", "off")]
    ∃ p us, decode raw none = .ok p ∧ form.translate = .ok us ∧
      decode (RawSettings.merge raw us) none =
        .ok (if RawSettings.resolvesToOpen raw us then
            { p.edit us with wifiSec := { psk := p.wifiSec.psk } }
          else p.edit us) := by
  intro raw form
  obtain ⟨p, decoded⟩ : ∃ p, decode raw none = .ok p := ⟨_, rfl⟩
  obtain ⟨us, accepted⟩ : ∃ us, form.translate = .ok us := ⟨_, rfl⟩
  exact ⟨p, us, decoded, accepted, merged_settings_read_back raw none p form us decoded accepted⟩

end ProfileSettings

end NetConsole
