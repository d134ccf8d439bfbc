import NetConsole.Proofs.Decode
import Mathlib.Data.List.Forall2

/-! The raw settings that decode: `ProfileSettings.Schema` says field by field, without the
decoder, what decoding asks of them. -/

namespace NetConsole

open NetConsole.Bus (Value Signature)

theorem mapM_eq_some_iff {α β : Type} {f : α → Option β} {xs : List α} {ys : List β} :
    xs.mapM f = some ys ↔ List.Forall₂ (fun x y => f x = some y) xs ys := by
  induction xs generalizing ys with
  | nil => cases ys <;> simp
  | cons x xs ih =>
      cases fx : f x with
      | none => cases ys <;> simp [fx]
      | some y =>
          cases rest : xs.mapM f with
          | none => cases ys <;> simp [fx, rest, ← ih]
          | some zs => cases ys <;> simp [fx, rest, ← ih]

/-- Lists related item by item, whose right items all satisfy `Q`, are one choice of a right item
for each left one. -/
theorem exists_forall₂_and_iff {α β : Type} {R : α → β → Prop} {Q : β → Prop} {xs : List α} :
    (∃ ys, List.Forall₂ R xs ys ∧ ∀ y ∈ ys, Q y) ↔ ∀ x ∈ xs, ∃ y, R x y ∧ Q y := by
  induction xs with
  | nil => exact ⟨fun _ => by simp, fun _ => ⟨[], .nil, by simp⟩⟩
  | cons x xs ih =>
      simp only [List.forall_mem_cons]
      constructor
      · rintro ⟨_ | ⟨y, ys⟩, related, all⟩
        · cases related
        · obtain ⟨head, tail⟩ := List.forall₂_cons.mp related
          simp only [List.forall_mem_cons] at all
          exact ⟨⟨y, head, all.1⟩, ih.mp ⟨ys, tail, all.2⟩⟩
      · rintro ⟨⟨y, head, qy⟩, rest⟩
        obtain ⟨ys, tail, all⟩ := ih.mpr rest
        exact ⟨y :: ys, .cons head tail, List.forall_mem_cons.mpr ⟨qy, all⟩⟩

theorem exists_mapM_eq_ok_iff {ε α β : Type} {f : α → Except ε β} {xs : List α} :
    (∃ ys, xs.mapM f = .ok ys) ↔ ∀ x ∈ xs, ∃ y, f x = .ok y := by
  induction xs with
  | nil => exact ⟨fun _ => by simp, fun _ => ⟨[], rfl⟩⟩
  | cons x xs ih =>
      simp only [List.mapM_cons, bind_eq_ok_iff, pure_eq_ok_iff, List.forall_mem_cons, ← ih]
      constructor
      · rintro ⟨_, y, fy, ys, rest, rfl⟩
        exact ⟨⟨y, fy⟩, ys, rest⟩
      · rintro ⟨⟨y, fy⟩, ys, rest⟩
        exact ⟨_, y, fy, ys, rest, rfl⟩

theorem exists_bind_eq_ok_iff {ε α β : Type} {x : Except ε α} {f : α → Except ε β} :
    (∃ b, (x >>= f) = .ok b) ↔ ∃ a, x = .ok a ∧ ∃ b, f a = .ok b := by
  simp only [bind_eq_ok_iff]
  exact ⟨fun ⟨b, a, ra, rb⟩ => ⟨a, ra, b, rb⟩, fun ⟨a, ra, b, rb⟩ => ⟨b, a, ra, rb⟩⟩

namespace Bus.Value

def Typed (sig : Signature) (v : Value) : Prop := v.signatureOf = sig

/-- An array whose items, each taken out of at most one variant, satisfy `P`; the array's own
element signature does not matter. -/
def ArrayOf (P : Value → Prop) (v : Value) : Prop :=
  ∃ elem items, v = .array elem items ∧ ∀ item ∈ items, P item.unwrap

/-- A dictionary read as the section `entries`: its keys, each taken out of at most one variant,
are texts, and its values are taken out of one variant. -/
def DictOf (v : Value) (entries : RawSection) : Prop :=
  ∃ key value pairs, v = .dict key value pairs ∧
    List.Forall₂ (fun pair entry => pair.1.unwrap = .string entry.1 ∧ pair.2.unwrap = entry.2)
      pairs entries

def Reads {α : Type} (read : Value → Option α) (P : Value → Prop) : Prop :=
  ∀ v, (read v).isSome = true ↔ P v

theorem reads_asString : Reads asString? (Typed .string) := by
  intro v
  cases v <;> simp [asString?, Typed, signatureOf]

theorem reads_asBool : Reads asBool? (Typed .bool) := by
  intro v
  cases v <;> simp [asBool?, Typed, signatureOf]

theorem reads_asInt32 : Reads asInt32? (Typed .int32) := by
  intro v
  cases v <;> simp [asInt32?, Typed, signatureOf]

theorem reads_asUInt32 : Reads asUInt32? (Typed .uint32) := by
  intro v
  cases v <;> simp [asUInt32?, Typed, signatureOf]

theorem reads_asUInt64 : Reads asUInt64? (Typed .uint64) := by
  intro v
  cases v <;> simp [asUInt64?, Typed, signatureOf]

theorem reads_asByte : Reads asByte? (Typed .byte) := by
  intro v
  cases v <;> simp [asByte?, Typed, signatureOf]

theorem asString?_eq_some_iff {v : Value} {text : String} :
    v.asString? = some text ↔ v = .string text := by
  cases v <;> simp [asString?]

theorem asUInt32?_eq_some_iff {v : Value} {len : Nat} :
    v.asUInt32? = some len ↔ ∃ n : UInt32, v = .uint32 n ∧ n.toNat = len := by
  cases v <;> simp [asUInt32?]

theorem itemsAs?_eq_some_iff {α : Type} {read : Value → Option α} {v : Value} {ys : List α} :
    itemsAs? read v = some ys ↔
      ∃ elem items, v = .array elem items ∧
        List.Forall₂ (fun item y => read item.unwrap = some y) items ys := by
  cases v <;> simp [itemsAs?, mapM_eq_some_iff]

theorem Reads.itemsAs {α : Type} {read : Value → Option α} {P : Value → Prop}
    (reads : Reads read P) : Reads (itemsAs? read) (ArrayOf P) := by
  intro v
  simp only [Option.isSome_iff_exists, itemsAs?_eq_some_iff, ArrayOf]
  constructor
  · rintro ⟨ys, elem, items, rfl, related⟩
    have each := exists_forall₂_and_iff (Q := fun _ => True) |>.mp ⟨ys, related, fun _ _ => trivial⟩
    refine ⟨elem, items, rfl, fun item mem => ?_⟩
    obtain ⟨y, read_y, -⟩ := each item mem
    exact (reads _).mp (by simp [read_y])
  · rintro ⟨elem, items, rfl, each⟩
    have related := exists_forall₂_and_iff (R := fun (item : Value) y => read item.unwrap = some y)
      (Q := fun _ => True) |>.mpr fun item mem => by
        obtain ⟨y, read_y⟩ := Option.isSome_iff_exists.mp ((reads _).mpr (each item mem))
        exact ⟨y, read_y, trivial⟩
    obtain ⟨ys, related, -⟩ := related
    exact ⟨ys, elem, items, rfl, related⟩

theorem reads_asBytes : Reads asBytes? (ArrayOf (Typed .byte)) :=
  reads_asByte.itemsAs

theorem reads_asStrings : Reads asStrings? (ArrayOf (Typed .string)) :=
  reads_asString.itemsAs

theorem asSection?_eq_some_iff {v : Value} {entries : RawSection} :
    v.asSection? = some entries ↔ DictOf v entries := by
  -- an entry reads exactly when its key is a text, and then as that key and the unwrapped value
  have entry : ∀ (pair : Value × Value) (entry : String × Value),
      (pair.1.unwrap.asString?.map fun name => (name, pair.2.unwrap)) = some entry ↔
        pair.1.unwrap = .string entry.1 ∧ pair.2.unwrap = entry.2 := by
    rintro ⟨k, x⟩ ⟨name, y⟩
    simp only [Option.map_eq_some_iff, asString?_eq_some_iff, Prod.mk.injEq]
    constructor
    · rintro ⟨_, found, rfl, rfl⟩
      exact ⟨found, rfl⟩
    · rintro ⟨found, rfl⟩
      exact ⟨name, found, rfl, rfl⟩
  cases v <;> simp [asSection?, DictOf, mapM_eq_some_iff, entry]

end Bus.Value

namespace RawSection

open Bus.Value (Reads)

def AbsentOr (s : Option RawSection) (key : String) (P : Value → Prop) : Prop :=
  ∀ v, s.bind (·.get? key) = some v → P v

def PresentWith (s : Option RawSection) (key : String) (P : Value → Prop) : Prop :=
  ∃ v, s.bind (·.get? key) = some v ∧ P v

section Reads

variable {α : Type} {s : Option RawSection} {key : String} {name : Option String}
  {read : Value → Option α} {P : Value → Prop}

theorem required_eq_ok_iff {a : α} :
    required s key name read = .ok a ↔ ∃ v, s.bind (·.get? key) = some v ∧ read v = some a := by
  cases found : s.bind (·.get? key) with
  | none => simp [required, lookup, found, bind, Except.bind, throw, throwThe, MonadExceptOf.throw]
  | some v =>
      cases typed : read v <;>
        simp [required, lookup, found, typed, bind, Except.bind, pure, Except.pure]

theorem optional_eq_ok_iff {default a : α} :
    optional s key name read default = .ok a ↔
      (s.bind (·.get? key) = none ∧ a = default) ∨
        ∃ v, s.bind (·.get? key) = some v ∧ read v = some a := by
  cases found : s.bind (·.get? key) with
  | none => simp [optional, lookup, found, bind, Except.bind, pure, Except.pure, eq_comm]
  | some v =>
      cases typed : read v <;>
        simp [optional, lookup, found, typed, bind, Except.bind, pure, Except.pure]

theorem optional_succeeds_iff (reads : Reads read P) (default : α) :
    (∃ a, optional s key name read default = .ok a) ↔ AbsentOr s key P := by
  simp only [optional_eq_ok_iff, AbsentOr]
  constructor
  · rintro ⟨a, ⟨absent, -⟩ | ⟨v, present, typed⟩⟩ w found
    · rw [absent] at found
      cases found
    · rw [present] at found
      cases found
      exact (reads _).mp (by simp [typed])
  · intro typed
    cases found : s.bind (·.get? key) with
    | none => exact ⟨default, .inl ⟨rfl, rfl⟩⟩
    | some v =>
        obtain ⟨a, read_a⟩ := Option.isSome_iff_exists.mp ((reads v).mpr (typed v found))
        exact ⟨a, .inr ⟨v, rfl, read_a⟩⟩

theorem required_succeeds_iff (reads : Reads read P) :
    (∃ a, required s key name read = .ok a) ↔ PresentWith s key P := by
  simp only [required_eq_ok_iff, PresentWith]
  constructor
  · rintro ⟨a, v, present, typed⟩
    exact ⟨v, present, (reads v).mp (by simp [typed])⟩
  · rintro ⟨v, present, typed⟩
    obtain ⟨a, read_a⟩ := Option.isSome_iff_exists.mp ((reads v).mpr typed)
    exact ⟨a, v, present, read_a⟩

end Reads

end RawSection

namespace ProfileSettings

open RawSection (AbsentOr PresentWith optional_succeeds_iff required_succeeds_iff)
open Bus.Value (Typed ArrayOf DictOf reads_asString reads_asBool reads_asInt32 reads_asUInt32
  reads_asUInt64 reads_asBytes reads_asStrings)

structure ConnSchema (s : Option RawSection) : Prop where
  uuid : ∃ text, s.bind (·.get? "uuid") = some (.string text) ∧ ∃ u, Uuid.parse text = .ok u
  type : PresentWith s "type" (Typed .string)
  authRetries : AbsentOr s "auth-retries" (Typed .int32)
  autoconnect : AbsentOr s "autoconnect" (Typed .bool)
  autoconnectPriority : AbsentOr s "autoconnect-priority" (Typed .int32)
  autoconnectRetries : AbsentOr s "autoconnect-retries" (Typed .int32)
  id : PresentWith s "id" (Typed .string)
  interfaceName : PresentWith s "interface-name" (Typed .string)
  stableId : AbsentOr s "stable-id" (Typed .string)
  timestamp : AbsentOr s "timestamp" (Typed .uint64)
  zone : AbsentOr s "zone" (Typed .string)

structure WifiSchema (s : Option RawSection) : Prop where
  band : AbsentOr s "band" (Typed .string)
  mode : AbsentOr s "mode" (Typed .string)
  channel : AbsentOr s "channel" (Typed .uint32)
  hidden : AbsentOr s "hidden" (Typed .bool)
  ssid : AbsentOr s "ssid" (ArrayOf (Typed .byte))

/-- What decoding asks of the `802-11-wireless-security` section; the PSK comes from the secrets
and is never refused. -/
structure WifiSecSchema (s : Option RawSection) : Prop where
  group : AbsentOr s "group" (ArrayOf (Typed .string))
  keyMgmt : AbsentOr s "key-mgmt" (Typed .string)
  pairwise : AbsentOr s "pairwise" (ArrayOf (Typed .string))
  proto : AbsentOr s "proto" (ArrayOf (Typed .string))
  pskFlags : AbsentOr s "psk-flags" (Typed .uint32)

theorem ConnType.isWifi_ofRaw {t : String} :
    (ConnType.ofRaw t).isWifi = true ↔ t = "802-11-wireless" := by
  unfold ConnType.ofRaw
  split <;> simp_all [ConnType.isWifi]

/-- An address entry: a text address of either family, and a prefix no longer than the family's
addresses. -/
def AddressEntry (entry : RawSection) : Prop :=
  ∃ text addr len, entry.get? "address" = some (.string text) ∧ IpAddr.parse? text = some addr ∧
    entry.get? "prefix" = some (.uint32 len) ∧ len.toNat ≤ (if addr.isV4 then 32 else 128)

theorem prefix_refused_iff (len : Nat) (v4 : Bool) :
    (decide (len > 255) || decide (len > if v4 = true then 32 else 128)) = true ↔
      ¬ len ≤ (if v4 = true then 32 else 128) := by
  cases v4 <;> simp <;> omega

theorem ofEntry_succeeds_iff {entry : RawSection} :
    (∃ a, decodeAddresses.IpAddress.ofEntry entry = .ok a) ↔ AddressEntry entry := by
  unfold decodeAddresses.IpAddress.ofEntry
  simp only [exists_bind_eq_ok_iff, RawSection.required_eq_ok_iff, Option.bind_some,
    Bus.Value.asString?_eq_some_iff, Bus.Value.asUInt32?_eq_some_iff, exists_eq_right]
  constructor
  · rintro ⟨text, address, len, ⟨_, prefixed, n, rfl, rfl⟩, rest⟩
    cases parsed : IpAddr.parse? text with
    | none =>
        simp [parsed, throw, throwThe, MonadExceptOf.throw, bind, Except.bind] at rest
    | some addr =>
        simp only [parsed, pure_bind] at rest
        obtain ⟨b, ok⟩ := rest
        refine ⟨text, addr, n, address, parsed, prefixed, Decidable.byContradiction fun beyond => ?_⟩
        rw [if_pos ((prefix_refused_iff _ _).mpr beyond)] at ok
        simp [throw, throwThe, MonadExceptOf.throw, bind, Except.bind] at ok
  · rintro ⟨text, addr, n, address, parsed, prefixed, fits⟩
    refine ⟨text, address, n.toNat, ⟨_, prefixed, n, rfl, rfl⟩, ?_⟩
    simp only [parsed, pure_bind]
    rw [if_neg fun refused => (prefix_refused_iff _ _).mp refused fits]
    exact ⟨_, rfl⟩

def AddressData (v : Value) : Prop :=
  ArrayOf (fun item => ∃ entry, DictOf item entry ∧ AddressEntry entry) v

theorem addressData_iff {v : Value} :
    AddressData v ↔
      ∃ entries, v.asSections? = some entries ∧ ∀ entry ∈ entries, AddressEntry entry := by
  simp only [AddressData, ArrayOf, Bus.Value.asSections?, Bus.Value.itemsAs?_eq_some_iff,
    ← Bus.Value.asSection?_eq_some_iff]
  constructor
  · rintro ⟨elem, items, rfl, each⟩
    obtain ⟨entries, related, all⟩ := exists_forall₂_and_iff.mpr each
    exact ⟨entries, ⟨elem, items, rfl, related⟩, all⟩
  · rintro ⟨entries, ⟨elem, items, rfl, related⟩, all⟩
    exact ⟨elem, items, rfl, exists_forall₂_and_iff.mp ⟨entries, related, all⟩⟩

theorem decodeAddresses_succeeds_iff {s : Option RawSection} :
    (∃ addresses, decodeAddresses s = .ok addresses) ↔ AbsentOr s "address-data" AddressData := by
  simp only [decodeAddresses, exists_bind_eq_ok_iff, RawSection.optional_eq_ok_iff,
    exists_mapM_eq_ok_iff, ofEntry_succeeds_iff]
  constructor
  · rintro ⟨entries, ⟨absent, -⟩ | ⟨v, present, read⟩, all⟩ w found
    · rw [absent] at found
      cases found
    · rw [present] at found
      cases found
      exact addressData_iff.mpr ⟨entries, read, all⟩
  · intro each
    cases found : s.bind (·.get? "address-data") with
    | none => exact ⟨[], .inl ⟨rfl, rfl⟩, by simp⟩
    | some v =>
        obtain ⟨entries, read, all⟩ := addressData_iff.mp (each v found)
        exact ⟨entries, .inr ⟨v, rfl, read⟩, all⟩

structure Ipv4Schema (s : Option RawSection) : Prop where
  addresses : AbsentOr s "address-data" AddressData
  method : AbsentOr s "method" (Typed .string)
  neverDefault : AbsentOr s "never-default" (Typed .bool)

structure Ipv6Schema (s : Option RawSection) : Prop where
  addresses : AbsentOr s "address-data" AddressData
  addrGenMode : AbsentOr s "addr-gen-mode" (Typed .int32)
  method : AbsentOr s "method" (Typed .string)

/-- What decoding asks of a profile's raw settings: the Wi-Fi sections only when the type is
Wi-Fi. -/
structure Schema (raw : RawSettings) : Prop where
  conn : ConnSchema (raw.get? Setting.connection)
  wifi : (raw.get? Setting.connection).bind (·.get? "type") = some (.string "802-11-wireless") →
    WifiSchema (raw.get? Setting.wifi) ∧ WifiSecSchema (raw.get? Setting.wifiSecurity)
  ipv4 : Ipv4Schema (raw.get? Setting.ipv4)
  ipv6 : Ipv6Schema (raw.get? Setting.ipv6)

section Sections

variable {s : Option RawSection}

theorem decodeConn_succeeds_iff : (∃ c, decodeConn s = .ok c) ↔ ConnSchema s := by
  constructor
  · rintro ⟨c, decoded⟩
    obtain ⟨head, secs, zone, rh, rs, rz, -⟩ := decodeConn_eq_ok_iff.mp decoded
    obtain ⟨rawUuid, uuid, _, _, _, _, _, _, _, _, ru, parsed, rt, rar, rac, rap, rarr, rid, rifn,
      rsid, -⟩ := decodeConnHead_eq_ok_iff.mp rh
    obtain ⟨v, found, text⟩ := RawSection.required_eq_ok_iff.mp ru
    rw [Bus.Value.asString?_eq_some_iff.mp text] at found
    exact ⟨⟨rawUuid, found, uuid, parsed⟩, (required_succeeds_iff reads_asString).mp ⟨_, rt⟩,
      (optional_succeeds_iff reads_asInt32 _).mp ⟨_, rar⟩,
      (optional_succeeds_iff reads_asBool _).mp ⟨_, rac⟩,
      (optional_succeeds_iff reads_asInt32 _).mp ⟨_, rap⟩,
      (optional_succeeds_iff reads_asInt32 _).mp ⟨_, rarr⟩,
      (required_succeeds_iff reads_asString).mp ⟨_, rid⟩,
      (required_succeeds_iff reads_asString).mp ⟨_, rifn⟩,
      (optional_succeeds_iff reads_asString _).mp ⟨_, rsid⟩,
      (optional_succeeds_iff reads_asUInt64 _).mp ⟨_, rs⟩,
      (optional_succeeds_iff reads_asString _).mp ⟨_, rz⟩⟩
  · rintro ⟨⟨rawUuid, found, uuid, parsed⟩, type, authRetries, autoconnect, autoconnectPriority,
      autoconnectRetries, id, interfaceName, stableId, timestamp, zone⟩
    obtain ⟨_, rt⟩ := (required_succeeds_iff reads_asString).mpr type
    obtain ⟨_, rar⟩ := (optional_succeeds_iff reads_asInt32 _).mpr authRetries
    obtain ⟨_, rac⟩ := (optional_succeeds_iff reads_asBool _).mpr autoconnect
    obtain ⟨_, rap⟩ := (optional_succeeds_iff reads_asInt32 _).mpr autoconnectPriority
    obtain ⟨_, rarr⟩ := (optional_succeeds_iff reads_asInt32 _).mpr autoconnectRetries
    obtain ⟨_, rid⟩ := (required_succeeds_iff reads_asString).mpr id
    obtain ⟨_, rifn⟩ := (required_succeeds_iff reads_asString).mpr interfaceName
    obtain ⟨_, rsid⟩ := (optional_succeeds_iff reads_asString _).mpr stableId
    obtain ⟨_, rs⟩ := (optional_succeeds_iff reads_asUInt64 _).mpr timestamp
    obtain ⟨_, rz⟩ := (optional_succeeds_iff reads_asString _).mpr zone
    have ru : RawSection.required s "uuid" (some "UUID") Value.asString? = .ok rawUuid :=
      RawSection.required_eq_ok_iff.mpr ⟨_, found, rfl⟩
    have rh := decodeConnHead_eq_ok_iff.mpr ⟨rawUuid, uuid, _, _, _, _, _, _, _, _, ru, parsed, rt,
      rar, rac, rap, rarr, rid, rifn, rsid, rfl⟩
    exact ⟨_, decodeConn_eq_ok_iff.mpr ⟨_, _, _, rh, rs, rz, rfl⟩⟩

theorem decodeConn_isWifi {c : ConnSettings} (decoded : decodeConn s = .ok c) :
    c.connType.isWifi = true ↔ s.bind (·.get? "type") = some (.string "802-11-wireless") := by
  obtain ⟨head, _, _, rh, -, -, rfl⟩ := decodeConn_eq_ok_iff.mp decoded
  obtain ⟨_, _, rawType, _, _, _, _, _, _, _, -, -, rt, -, -, -, -, -, -, -, rfl⟩ :=
    decodeConnHead_eq_ok_iff.mp rh
  obtain ⟨v, found, text⟩ := RawSection.required_eq_ok_iff.mp rt
  rw [found, Bus.Value.asString?_eq_some_iff.mp text]
  simp [ConnType.isWifi_ofRaw]

theorem decodeWifi_succeeds_iff : (∃ w, decodeWifi s = .ok w) ↔ WifiSchema s := by
  constructor
  · rintro ⟨w, decoded⟩
    obtain ⟨_, _, _, _, _, rb, rm, rc, rh, rs, -⟩ := decodeWifi_eq_ok_iff.mp decoded
    exact ⟨(optional_succeeds_iff reads_asString _).mp ⟨_, rb⟩,
      (optional_succeeds_iff reads_asString _).mp ⟨_, rm⟩,
      (optional_succeeds_iff reads_asUInt32 _).mp ⟨_, rc⟩,
      (optional_succeeds_iff reads_asBool _).mp ⟨_, rh⟩,
      (optional_succeeds_iff reads_asBytes _).mp ⟨_, rs⟩⟩
  · rintro ⟨band, mode, channel, hidden, ssid⟩
    obtain ⟨_, rb⟩ := (optional_succeeds_iff reads_asString _).mpr band
    obtain ⟨_, rm⟩ := (optional_succeeds_iff reads_asString _).mpr mode
    obtain ⟨_, rc⟩ := (optional_succeeds_iff reads_asUInt32 _).mpr channel
    obtain ⟨_, rh⟩ := (optional_succeeds_iff reads_asBool _).mpr hidden
    obtain ⟨_, rs⟩ := (optional_succeeds_iff reads_asBytes _).mpr ssid
    exact ⟨_, decodeWifi_eq_ok_iff.mpr ⟨_, _, _, _, _, rb, rm, rc, rh, rs, rfl⟩⟩

theorem decodeWifiSec_succeeds_iff {secrets : Option RawSection} :
    (∃ w, decodeWifiSec s secrets = .ok w) ↔ WifiSecSchema s := by
  constructor
  · rintro ⟨w, decoded⟩
    obtain ⟨fields, read, -⟩ := decodeWifiSec_eq_ok_iff.mp decoded
    obtain ⟨_, _, _, _, _, rg, rk, rp, rr, rf, -⟩ := decodeWifiSecFields_eq_ok_iff.mp read
    exact ⟨(optional_succeeds_iff reads_asStrings _).mp ⟨_, rg⟩,
      (optional_succeeds_iff reads_asString _).mp ⟨_, rk⟩,
      (optional_succeeds_iff reads_asStrings _).mp ⟨_, rp⟩,
      (optional_succeeds_iff reads_asStrings _).mp ⟨_, rr⟩,
      (optional_succeeds_iff reads_asUInt32 _).mp ⟨_, rf⟩⟩
  · rintro ⟨group, keyMgmt, pairwise, proto, pskFlags⟩
    obtain ⟨_, rg⟩ := (optional_succeeds_iff reads_asStrings _).mpr group
    obtain ⟨_, rk⟩ := (optional_succeeds_iff reads_asString _).mpr keyMgmt
    obtain ⟨_, rp⟩ := (optional_succeeds_iff reads_asStrings _).mpr pairwise
    obtain ⟨_, rr⟩ := (optional_succeeds_iff reads_asStrings _).mpr proto
    obtain ⟨_, rf⟩ := (optional_succeeds_iff reads_asUInt32 _).mpr pskFlags
    have read := decodeWifiSecFields_eq_ok_iff.mpr ⟨_, _, _, _, _, rg, rk, rp, rr, rf, rfl⟩
    exact ⟨_, decodeWifiSec_eq_ok_iff.mpr ⟨_, read, rfl⟩⟩

theorem decodeIpv4_succeeds_iff : (∃ settings, decodeIpv4 s = .ok settings) ↔ Ipv4Schema s := by
  simp only [decodeIpv4, exists_bind_eq_ok_iff]
  constructor
  · rintro ⟨_, ra, _, rm, _, rn, -⟩
    exact ⟨decodeAddresses_succeeds_iff.mp ⟨_, ra⟩,
      (optional_succeeds_iff reads_asString _).mp ⟨_, rm⟩,
      (optional_succeeds_iff reads_asBool _).mp ⟨_, rn⟩⟩
  · rintro ⟨addresses, method, neverDefault⟩
    obtain ⟨_, ra⟩ := decodeAddresses_succeeds_iff.mpr addresses
    obtain ⟨_, rm⟩ := (optional_succeeds_iff reads_asString _).mpr method
    obtain ⟨_, rn⟩ := (optional_succeeds_iff reads_asBool _).mpr neverDefault
    exact ⟨_, ra, _, rm, _, rn, _, rfl⟩

theorem decodeIpv6_succeeds_iff : (∃ settings, decodeIpv6 s = .ok settings) ↔ Ipv6Schema s := by
  simp only [decodeIpv6, exists_bind_eq_ok_iff]
  constructor
  · rintro ⟨_, ra, _, rg, _, rm, -⟩
    exact ⟨decodeAddresses_succeeds_iff.mp ⟨_, ra⟩,
      (optional_succeeds_iff reads_asInt32 _).mp ⟨_, rg⟩,
      (optional_succeeds_iff reads_asString _).mp ⟨_, rm⟩⟩
  · rintro ⟨addresses, addrGenMode, method⟩
    obtain ⟨_, ra⟩ := decodeAddresses_succeeds_iff.mpr addresses
    obtain ⟨_, rg⟩ := (optional_succeeds_iff reads_asInt32 _).mpr addrGenMode
    obtain ⟨_, rm⟩ := (optional_succeeds_iff reads_asString _).mpr method
    exact ⟨_, ra, _, rg, _, rm, _, rfl⟩

end Sections

/-- Decoding succeeds exactly on the raw settings that meet the schema, whatever the secrets. -/
theorem decode_succeeds_iff_schema (raw : RawSettings) (secrets : Option RawSettings) :
    (∃ p, decode raw secrets = .ok p) ↔ Schema raw := by
  constructor
  · rintro ⟨p, decoded⟩
    obtain ⟨rc, sections, r4, r6⟩ := decode_eq_ok_iff.mp decoded
    refine ⟨decodeConn_succeeds_iff.mp ⟨_, rc⟩, fun wifiType => ?_,
      decodeIpv4_succeeds_iff.mp ⟨_, r4⟩, decodeIpv6_succeeds_iff.mp ⟨_, r6⟩⟩
    rw [if_pos ((decodeConn_isWifi rc).mpr wifiType)] at sections
    exact ⟨decodeWifi_succeeds_iff.mp ⟨_, sections.1⟩, decodeWifiSec_succeeds_iff.mp ⟨_, sections.2⟩⟩
  · intro schema
    obtain ⟨conn, rc⟩ := decodeConn_succeeds_iff.mpr schema.conn
    obtain ⟨ipv4, r4⟩ := decodeIpv4_succeeds_iff.mpr schema.ipv4
    obtain ⟨ipv6, r6⟩ := decodeIpv6_succeeds_iff.mpr schema.ipv6
    by_cases wifi : conn.connType.isWifi = true
    · -- a Wi-Fi profile: its two Wi-Fi sections must decode too
      obtain ⟨wifiSchema, secSchema⟩ := schema.wifi ((decodeConn_isWifi rc).mp wifi)
      obtain ⟨w, rw⟩ := decodeWifi_succeeds_iff.mpr wifiSchema
      obtain ⟨ws, rws⟩ : ∃ ws, decodeWifiSec (raw.get? Setting.wifiSecurity)
          (secrets.bind (·.get? Setting.wifiSecurity)) = .ok ws :=
        decodeWifiSec_succeeds_iff.mpr secSchema
      refine ⟨⟨conn, w, ws, ipv4, ipv6⟩, decode_eq_ok_iff.mpr ⟨rc, ?_, r4, r6⟩⟩
      rw [if_pos wifi]
      exact ⟨rw, rws⟩
    · refine ⟨⟨conn, {}, {}, ipv4, ipv6⟩, decode_eq_ok_iff.mpr ⟨rc, ?_, r4, r6⟩⟩
      rw [if_neg wifi]
      exact ⟨rfl, rfl⟩

end ProfileSettings

end NetConsole
