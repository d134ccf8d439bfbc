import NetConsole.Proofs.Schema

/-! Where the secrets and the Wi-Fi sections reach a decoded profile: the secrets only as the PSK
of a Wi-Fi profile, and the Wi-Fi sections only when the type is the Wi-Fi text, which is when
the store asks for secrets. -/

namespace NetConsole

namespace ProfileSettings

open NetConsole.Bus (Value)
open RawSection (optional)

/-- The PSK that secrets hold: the text at `psk` in their security section, and empty when the
section or the entry is missing or the entry is no text. -/
def secretPsk (secrets : RawSettings) : String :=
  (((secrets.get? Setting.wifiSecurity).bind (·.get? "psk")).bind Value.asString?).getD ""

def WifiTyped (raw : RawSettings) : Prop :=
  (raw.get? Setting.connection).bind (·.get? "type") = some (.string "802-11-wireless")

def withPsk (psk : String) (p : ProfileSettings) : ProfileSettings :=
  if p.conn.connType.isWifi then { p with wifiSec := { p.wifiSec with psk } } else p

theorem inSection_ok {α : Type} (name : String) (a : α) :
    inSection name (.ok a : Except Error α) = .ok a := rfl

theorem decodePsk_eq_secretPsk (secrets : RawSettings) :
    decodePsk (secrets.get? Setting.wifiSecurity) = secretPsk secrets := by
  unfold decodePsk readPsk secretPsk
  cases found : (secrets.get? Setting.wifiSecurity).bind (·.get? "psk") with
  | none => rw [RawSection.optional_of_absent found]; rfl
  | some v =>
      cases text : v.asString? with
      | none =>
          -- an entry that is no text fails to read
          cases read : optional (secrets.get? Setting.wifiSecurity) "psk" (some "PSK")
              Value.asString? "" with
          | error _ => simp [text]
          | ok psk =>
              rcases RawSection.optional_eq_ok_iff.mp read with ⟨absent, -⟩ | ⟨w, present, typed⟩
              · rw [found] at absent
                cases absent
              · rw [found, Option.some.injEq] at present
                rw [← present, text] at typed
                cases typed
      | some psk => rw [RawSection.optional_of_read found text]; simp [text]

theorem psk_of_decode_none {raw : RawSettings} {p : ProfileSettings}
    (decoded : decode raw none = .ok p) : p.wifiSec.psk = "" := by
  obtain ⟨-, sections, -, -⟩ := decode_eq_ok_iff.mp decoded
  split at sections
  · obtain ⟨fields, -, same⟩ := decodeWifiSec_eq_ok_iff.mp sections.2
    rw [same]
    rfl
  · rw [sections.2]

theorem inSection_decodeWifiSec (s secrets : Option RawSection) :
    inSection Setting.wifiSecurity (decodeWifiSec s secrets) =
      (inSection Setting.wifiSecurity (decodeWifiSec s none)).map
        fun ws => { ws with psk := decodePsk secrets } := by
  unfold decodeWifiSec
  cases decodeWifiSecFields s <;> rfl

/-- Decoding with secrets gives what decoding without gives, the PSK of a Wi-Fi profile read
from the secrets; in particular it succeeds exactly when decoding without does. The stages of
decoding are taken as they come out, each ending in success or an error. -/
theorem decode_secrets (raw : RawSettings) (secrets : Option RawSettings) :
    decode raw secrets =
      (decode raw none).map (withPsk (decodePsk (secrets.bind (·.get? Setting.wifiSecurity)))) := by
  unfold decode
  rw [Option.bind_none, inSection_decodeWifiSec _ (secrets.bind _)]
  generalize inSection Setting.connection (decodeConn (raw.get? Setting.connection)) = conn?
  generalize inSection Setting.wifi (decodeWifi (raw.get? Setting.wifi)) = wifi?
  generalize inSection Setting.wifiSecurity (decodeWifiSec (raw.get? Setting.wifiSecurity) none) =
    wifiSec?
  generalize inSection Setting.ipv4 (decodeIpv4 (raw.get? Setting.ipv4)) = ipv4?
  generalize inSection Setting.ipv6 (decodeIpv6 (raw.get? Setting.ipv6)) = ipv6?
  cases conn? with
  | error e => rfl
  | ok conn =>
      cases wifi : conn.connType.isWifi
      · -- no Wi-Fi sections are read, and the PSK stays empty
        cases ipv4? <;> cases ipv6? <;>
          simp [bind, Except.bind, Except.map, pure, Except.pure, withPsk, wifi]
      · cases wifi? <;> cases wifiSec? <;> cases ipv4? <;> cases ipv6? <;>
          simp [bind, Except.bind, Except.map, pure, Except.pure, withPsk, wifi]

/-- A profile whose type is not the Wi-Fi text reads no Wi-Fi section: settings that agree with
it outside them decode alike. -/
theorem decode_congr_of_not_wifi {raw raw' : RawSettings} (notWifi : ¬ WifiTyped raw)
    (same : ∀ s, s ≠ Setting.wifi → s ≠ Setting.wifiSecurity → raw'.get? s = raw.get? s)
    (secrets : Option RawSettings) : decode raw' secrets = decode raw secrets := by
  have connection := same Setting.connection (by decide) (by decide)
  have ipv4 := same Setting.ipv4 (by decide) (by decide)
  have ipv6 := same Setting.ipv6 (by decide) (by decide)
  unfold decode
  rw [connection, ipv4, ipv6]
  cases decoded : decodeConn (raw.get? Setting.connection) with
  | error e => rfl
  | ok conn =>
      have other : conn.connType.isWifi = false := by
        cases wifi : conn.connType.isWifi
        · rfl
        · exact absurd ((decodeConn_isWifi decoded).mp wifi) notWifi
      simp only [inSection_ok, bind, Except.bind, other, Bool.false_eq_true, if_false]

theorem wifi_default_of_not_wifi {raw : RawSettings} (notWifi : ¬ WifiTyped raw)
    {secrets : Option RawSettings} {p : ProfileSettings} (decoded : decode raw secrets = .ok p) :
    p.wifi = {} ∧ p.wifiSec = {} := by
  obtain ⟨rc, sections, -, -⟩ := decode_eq_ok_iff.mp decoded
  have other : p.conn.connType.isWifi = false := by
    cases wifi : p.conn.connType.isWifi
    · rfl
    · exact absurd ((decodeConn_isWifi rc).mp wifi) notWifi
  rw [other] at sections
  exact sections

/-- The store's own reading of the type: a Wi-Fi profile exactly when the type is present as the
text `802-11-wireless`. -/
theorem isWifiProfile_iff (raw : RawSettings) : isWifiProfile raw = true ↔ WifiTyped raw := by
  unfold isWifiProfile WifiTyped
  cases read : optional (raw.get? Setting.connection) "type" none Value.asString? "" with
  | error e =>
      -- a type of another bus type, which is no Wi-Fi text
      simp only [Bool.false_eq_true, false_iff]
      intro typed
      have wifiText : optional (raw.get? Setting.connection) "type" none Value.asString? "" =
          .ok "802-11-wireless" :=
        RawSection.optional_of_read typed
          (show Value.asString? (.string "802-11-wireless") = some "802-11-wireless" from rfl) ""
      rw [wifiText] at read
      cases read
  | ok t =>
      rw [ConnType.isWifi_ofRaw]
      rcases RawSection.optional_eq_ok_iff.mp read with ⟨absent, rfl⟩ | ⟨v, found, text⟩
      · rw [absent]
        simp
      · rw [found, Bus.Value.asString?_eq_some_iff.mp text]
        simp

theorem isWifiProfile_of_decode {raw : RawSettings} {secrets : Option RawSettings}
    {p : ProfileSettings} (decoded : decode raw secrets = .ok p) :
    isWifiProfile raw = p.conn.connType.isWifi := by
  obtain ⟨rc, -, -, -⟩ := decode_eq_ok_iff.mp decoded
  rw [Bool.eq_iff_iff, isWifiProfile_iff, decodeConn_isWifi rc]
  rfl

/-- Secrets and the Wi-Fi sections reach the decoded profile only where they should: the
secrets only as the PSK of a Wi-Fi profile, the Wi-Fi sections only in a profile whose type is
the Wi-Fi text, and the store asks for secrets exactly for such profiles. -/
theorem secrets_reach_only_wifi_profiles (raw secrets : RawSettings) :
    decode raw (some secrets) =
      (decode raw none).map (fun p => if isWifiProfile raw then
        { p with wifiSec := { p.wifiSec with psk := secretPsk secrets } } else p) ∧
    (∀ p, decode raw none = .ok p → p.wifiSec.psk = "") ∧
    (¬ WifiTyped raw → ∀ raw' : RawSettings,
      (∀ s, s ≠ Setting.wifi → s ≠ Setting.wifiSecurity → raw'.get? s = raw.get? s) →
      ∀ secrets', decode raw' secrets' = decode raw secrets') ∧
    (¬ WifiTyped raw → ∀ secrets' p, decode raw secrets' = .ok p → p.wifi = {} ∧ p.wifiSec = {}) ∧
    (isWifiProfile raw = true ↔ WifiTyped raw) ∧
    (∀ secrets' p, decode raw secrets' = .ok p → isWifiProfile raw = p.conn.connType.isWifi) := by
  refine ⟨?_, fun p => psk_of_decode_none, fun notWifi raw' same secrets' =>
    decode_congr_of_not_wifi notWifi same secrets', fun notWifi _ _ decoded =>
    wifi_default_of_not_wifi notWifi decoded, isWifiProfile_iff raw, fun _ _ =>
    isWifiProfile_of_decode⟩
  rw [decode_secrets, Option.bind_some, decodePsk_eq_secretPsk]
  -- the two readings of the type agree wherever decoding succeeds
  cases decoded : decode raw none with
  | error e => rfl
  | ok p =>
      simp only [Except.map, withPsk, isWifiProfile_of_decode decoded]

end ProfileSettings

end NetConsole
