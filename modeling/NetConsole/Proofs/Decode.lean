import NetConsole.Profile.Decode

/-! What decoding a profile reads, and what it builds from it. A section is read only at single
keys, so sections that agree there decode alike, and each decoder succeeds exactly when each of
its reads does. -/

namespace NetConsole

open NetConsole.Bus (Value)

theorem bind_eq_ok_iff {ε α β : Type} {x : Except ε α} {f : α → Except ε β} {b : β} :
    x >>= f = .ok b ↔ ∃ a, x = .ok a ∧ f a = .ok b := by
  cases x <;> simp [bind, Except.bind]

theorem pure_eq_ok_iff {ε α : Type} {a b : α} : (pure a : Except ε α) = .ok b ↔ a = b := by
  simp [pure, Except.pure]

namespace RawSection

section Reads

variable {α : Type} {s t : Option RawSection} {key : String} {name : Option String}
  {read : Value → Option α}

theorem lookup_congr (same : s.bind (·.get? key) = t.bind (·.get? key)) :
    lookup s key name read = lookup t key name read := by
  simp only [lookup, same]

theorem optional_congr (same : s.bind (·.get? key) = t.bind (·.get? key)) (default : α) :
    optional s key name read default = optional t key name read default := by
  simp only [optional, lookup_congr same]

theorem required_congr (same : s.bind (·.get? key) = t.bind (·.get? key)) :
    required s key name read = required t key name read := by
  simp only [required, lookup_congr same]

theorem optional_of_read {v : Value} {a : α} (present : s.bind (·.get? key) = some v)
    (typed : read v = some a) (default : α) : optional s key name read default = .ok a := by
  simp [optional, lookup, present, typed, bind, Except.bind, pure, Except.pure]

theorem optional_of_absent (absent : s.bind (·.get? key) = none) (default : α) :
    optional s key name read default = .ok default := by
  simp [optional, lookup, absent, bind, Except.bind, pure, Except.pure]

end Reads

end RawSection

namespace ProfileSettings

open RawSection (required optional)

theorem inSection_eq_ok_iff {α : Type} {name : String} {r : Except Error α} {a : α} :
    inSection name r = .ok a ↔ r = .ok a := by
  cases r with
  | error e => exact iff_of_false (fun wrapped => by cases wrapped) (fun failed => by cases failed)
  | ok b => exact Iff.rfl

theorem decodeWifi_eq_ok_iff {s : Option RawSection} {w : WifiSettings} :
    decodeWifi s = .ok w ↔
      ∃ band mode channel hidden ssid,
        optional s "band" none Value.asString? "" = .ok band ∧
        optional s "mode" none Value.asString? "" = .ok mode ∧
        optional s "channel" none Value.asUInt32? 0 = .ok channel ∧
        optional s "hidden" none Value.asBool? false = .ok hidden ∧
        optional s "ssid" (some "SSID") Value.asBytes? [] = .ok ssid ∧
        w = { band := TextChoice.ofRaw band, channel := channel, hidden := hidden,
              mode := TextChoice.ofRaw mode, ssid := ssid } := by
  simp only [decodeWifi, bind_eq_ok_iff, pure_eq_ok_iff]
  constructor
  · rintro ⟨band, rb, mode, rm, channel, rc, hidden, rh, ssid, rs, rfl⟩
    exact ⟨band, mode, channel, hidden, ssid, rb, rm, rc, rh, rs, rfl⟩
  · rintro ⟨band, mode, channel, hidden, ssid, rb, rm, rc, rh, rs, rfl⟩
    exact ⟨band, rb, mode, rm, channel, rc, hidden, rh, ssid, rs, rfl⟩

theorem decodeWifiSecFields_eq_ok_iff {s : Option RawSection} {w : WifiSecSettings} :
    decodeWifiSecFields s = .ok w ↔
      ∃ group keyMgmt pairwise proto pskFlags,
        optional s "group" (some "group/broadcast encryption algorithms whitelist")
          Value.asStrings? [] = .ok group ∧
        optional s "key-mgmt" (some "key management method") Value.asString? "" = .ok keyMgmt ∧
        optional s "pairwise" (some "pairwise encryption algorithms whitelist")
          Value.asStrings? [] = .ok pairwise ∧
        optional s "proto" (some "WPA protocol versions whitelist") Value.asStrings? [] =
          .ok proto ∧
        optional s "psk-flags" none Value.asUInt32? 0 = .ok pskFlags ∧
        w = { group := ChoiceSet.ofRaws group, keyMgmt := TextChoice.ofRaw keyMgmt,
              pairwise := ChoiceSet.ofRaws pairwise, proto := ChoiceSet.ofRaws proto,
              pskFlags := ⟨pskFlags.toUInt32⟩ } := by
  simp only [decodeWifiSecFields, bind_eq_ok_iff, pure_eq_ok_iff]
  constructor
  · rintro ⟨group, rg, keyMgmt, rk, pairwise, rp, proto, rr, pskFlags, rf, rfl⟩
    exact ⟨group, keyMgmt, pairwise, proto, pskFlags, rg, rk, rp, rr, rf, rfl⟩
  · rintro ⟨group, keyMgmt, pairwise, proto, pskFlags, rg, rk, rp, rr, rf, rfl⟩
    exact ⟨group, rg, keyMgmt, rk, pairwise, rp, proto, rr, pskFlags, rf, rfl⟩

theorem decodeWifiSec_eq_ok_iff {s secrets : Option RawSection} {w : WifiSecSettings} :
    decodeWifiSec s secrets = .ok w ↔
      ∃ fields, decodeWifiSecFields s = .ok fields ∧ w = { fields with psk := decodePsk secrets } := by
  simp only [decodeWifiSec, bind_eq_ok_iff, pure_eq_ok_iff]
  constructor
  · rintro ⟨fields, read, rfl⟩
    exact ⟨fields, read, rfl⟩
  · rintro ⟨fields, read, rfl⟩
    exact ⟨fields, read, rfl⟩

theorem decodeConnHead_eq_ok_iff {s : Option RawSection} {h : ConnHead} :
    decodeConnHead s = .ok h ↔
      ∃ rawUuid uuid rawType authRetries autoconnect autoconnectPriority autoconnectRetries id
          interfaceName stableId,
        required s "uuid" (some "UUID") Value.asString? = .ok rawUuid ∧
        Uuid.parse rawUuid = .ok uuid ∧
        required s "type" none Value.asString? = .ok rawType ∧
        optional s "auth-retries" none Value.asInt32? (-1) = .ok authRetries ∧
        optional s "autoconnect" none Value.asBool? true = .ok autoconnect ∧
        optional s "autoconnect-priority" none Value.asInt32? 0 = .ok autoconnectPriority ∧
        optional s "autoconnect-retries" none Value.asInt32? (-1) = .ok autoconnectRetries ∧
        required s "id" (some "ID") Value.asString? = .ok id ∧
        required s "interface-name" none Value.asString? = .ok interfaceName ∧
        optional s "stable-id" (some "stable ID") Value.asString? "" = .ok stableId ∧
        h = ⟨uuid, rawType, authRetries, autoconnect, autoconnectPriority, autoconnectRetries, id,
          interfaceName, stableId⟩ := by
  simp only [decodeConnHead, bind_eq_ok_iff]
  constructor
  · rintro ⟨rawUuid, ru, rest⟩
    -- the UUID is read first, and the rest only once it parses
    cases parsed : Uuid.parse rawUuid with
    | error e => simp [parsed, throw, throwThe, MonadExceptOf.throw, bind, Except.bind] at rest
    | ok uuid =>
        simp only [parsed, bind_eq_ok_iff, exists_eq_left', pure_eq_ok_iff] at rest
        obtain ⟨rawType, rt, ar, rar, ac, rac, ap, rap, arr, rarr, id, rid, ifn, rifn, sid, rsid,
          rfl⟩ := rest
        exact ⟨rawUuid, uuid, rawType, ar, ac, ap, arr, id, ifn, sid, ru, parsed, rt, rar, rac, rap,
          rarr, rid, rifn, rsid, rfl⟩
  · rintro ⟨rawUuid, uuid, rawType, ar, ac, ap, arr, id, ifn, sid, ru, parsed, rt, rar, rac, rap,
      rarr, rid, rifn, rsid, rfl⟩
    refine ⟨rawUuid, ru, ?_⟩
    simp only [parsed, bind_eq_ok_iff, exists_eq_left', pure_eq_ok_iff]
    exact ⟨rawType, rt, ar, rar, ac, rac, ap, rap, arr, rarr, id, rid, ifn, rifn, sid, rsid, rfl⟩

theorem decodeConn_eq_ok_iff {s : Option RawSection} {c : ConnSettings} :
    decodeConn s = .ok c ↔
      ∃ head secs zone,
        decodeConnHead s = .ok head ∧ readTimestamp s = .ok secs ∧
        optional s "zone" none Value.asString? "" = .ok zone ∧
        c = { authRetries := head.authRetries, autoconnect := head.autoconnect,
              autoconnectPriority := head.autoconnectPriority,
              autoconnectRetries := head.autoconnectRetries, id := head.id,
              interfaceName := head.interfaceName, stableId := head.stableId,
              timestamp := timestampOf secs, connType := ConnType.ofRaw head.rawType,
              uuid := head.uuid, zone := zone } := by
  simp only [decodeConn, bind_eq_ok_iff, pure_eq_ok_iff]
  constructor
  · rintro ⟨head, rh, secs, rs, zone, rz, rfl⟩
    exact ⟨head, secs, zone, rh, rs, rz, rfl⟩
  · rintro ⟨head, secs, zone, rh, rs, rz, rfl⟩
    exact ⟨head, rh, secs, rs, zone, rz, rfl⟩

/-- Decoding reads the five sections, each with its own decoder, the Wi-Fi ones only for a Wi-Fi
profile; a profile of another type has the default Wi-Fi settings. -/
theorem decode_eq_ok_iff {raw : RawSettings} {secrets : Option RawSettings} {p : ProfileSettings} :
    decode raw secrets = .ok p ↔
      decodeConn (raw.get? Setting.connection) = .ok p.conn ∧
      (if p.conn.connType.isWifi then
          decodeWifi (raw.get? Setting.wifi) = .ok p.wifi ∧
          decodeWifiSec (raw.get? Setting.wifiSecurity)
            (secrets.bind (·.get? Setting.wifiSecurity)) = .ok p.wifiSec
        else p.wifi = {} ∧ p.wifiSec = {}) ∧
      decodeIpv4 (raw.get? Setting.ipv4) = .ok p.ipv4 ∧
      decodeIpv6 (raw.get? Setting.ipv6) = .ok p.ipv6 := by
  obtain ⟨conn, wifi, wifiSec, ipv4, ipv6⟩ := p
  simp only [decode, bind_eq_ok_iff, inSection_eq_ok_iff]
  cases rc : decodeConn (raw.get? Setting.connection) with
  | error e => simp
  | ok conn' =>
      simp only [Except.ok.injEq, exists_eq_left']
      by_cases wifiProfile : conn'.connType.isWifi = true
      · simp only [wifiProfile, if_true, bind_eq_ok_iff, inSection_eq_ok_iff, pure_eq_ok_iff,
          ProfileSettings.mk.injEq]
        constructor
        · rintro ⟨w, rw, ws, rws, _, rfl, i4, r4, i6, r6, rfl, rfl, rfl, rfl, rfl⟩
          simp [wifiProfile, rw, rws, r4, r6]
        · rintro ⟨rfl, sections, r4, r6⟩
          rw [if_pos wifiProfile] at sections
          exact ⟨wifi, sections.1, wifiSec, sections.2, _, rfl, ipv4, r4, ipv6, r6, rfl, rfl, rfl,
            rfl, rfl⟩
      · simp only [wifiProfile, if_false, Bool.false_eq_true, bind_eq_ok_iff, inSection_eq_ok_iff,
          pure_eq_ok_iff, ProfileSettings.mk.injEq]
        constructor
        · rintro ⟨_, rfl, i4, r4, i6, r6, rfl, rfl, rfl, rfl, rfl⟩
          simp [wifiProfile, r4, r6]
        · rintro ⟨rfl, sections, r4, r6⟩
          rw [if_neg wifiProfile] at sections
          obtain ⟨rfl, rfl⟩ := sections
          exact ⟨_, rfl, ipv4, r4, ipv6, r6, rfl, rfl, rfl, rfl, rfl⟩

theorem decodeAddresses_congr {s t : Option RawSection}
    (same : s.bind (·.get? "address-data") = t.bind (·.get? "address-data")) :
    decodeAddresses s = decodeAddresses t := by
  simp only [decodeAddresses, RawSection.optional_congr same]

theorem decodeIpv4_congr {s t : Option RawSection}
    (same : ∀ key ∈ ["address-data", "method", "never-default"],
      s.bind (·.get? key) = t.bind (·.get? key)) :
    decodeIpv4 s = decodeIpv4 t := by
  simp only [decodeIpv4, decodeAddresses_congr (same "address-data" (by simp)),
    RawSection.optional_congr (same "method" (by simp)),
    RawSection.optional_congr (same "never-default" (by simp))]

theorem decodeIpv6_congr {s t : Option RawSection}
    (same : ∀ key ∈ ["address-data", "addr-gen-mode", "method"],
      s.bind (·.get? key) = t.bind (·.get? key)) :
    decodeIpv6 s = decodeIpv6 t := by
  simp only [decodeIpv6, decodeAddresses_congr (same "address-data" (by simp)),
    RawSection.optional_congr (same "addr-gen-mode" (by simp)),
    RawSection.optional_congr (same "method" (by simp))]

end ProfileSettings

end NetConsole
