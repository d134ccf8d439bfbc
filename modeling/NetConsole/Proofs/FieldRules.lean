import NetConsole.Form.Translate

/-! The rule of each form field refuses exactly what `Form.Rejects` says, and what it accepts is
an update of its own key that keeps the promise `Update.Valid`. -/

namespace NetConsole

theorem TextChoice.check_eq_ok_iff {α : Type} [TextChoice α] (a : α) :
    TextChoice.check a = .ok () ↔ (TextChoice.describe a).isError = false := by
  simp only [TextChoice.check, Description.check]
  cases (TextChoice.describe a).isError <;> simp

theorem TextChoice.check_ne_ok_of_unknown {α : Type} [TextChoice α] {a : α} {details : String}
    (unknown : TextChoice.describe a = Description.unknown details) : TextChoice.check a ≠ .ok () := by
  rw [Ne, TextChoice.check_eq_ok_iff, unknown]
  simp [Description.unknown, Description.isError]

theorem WifiBand.check_ofRaw (s : String) :
    TextChoice.check (TextChoice.ofRaw s : WifiBand) = .ok () ↔ s ∈ ["a", "bg", ""] := by
  by_cases known : s ∈ ["a", "bg", ""]
  · simp only [List.mem_cons, List.not_mem_nil, or_false] at known
    rcases known with rfl | rfl | rfl <;> exact iff_of_true rfl (by simp)
  · simp only [List.mem_cons, List.not_mem_nil, or_false, not_or] at known
    simp [TextChoice.check_eq_ok_iff, TextChoice.ofRaw, TextChoice.describe, known,
      Description.unknown, Description.isError]

theorem WifiBand.ofRaw_raw {b : WifiBand} (checked : TextChoice.check b = .ok ()) :
    TextChoice.ofRaw (TextChoice.raw b) = b := by
  cases b with
  | other s => exact absurd checked (TextChoice.check_ne_ok_of_unknown rfl)
  | _ => rfl

theorem WifiBand.eq_any_of_isEmpty {b : WifiBand} (checked : TextChoice.check b = .ok ())
    (clears : (TextChoice.raw b).isEmpty = true) : b = .any :=
  calc b = TextChoice.ofRaw (TextChoice.raw b) := (WifiBand.ofRaw_raw checked).symm
    _ = .any := by rw [String.isEmpty_iff.mp clears]; rfl

theorem WifiMode.check_ofRaw (s : String) :
    TextChoice.check (TextChoice.ofRaw s : WifiMode) = .ok () ↔
      s ∈ ["", "infrastructure", "mesh", "adhoc", "ap"] := by
  by_cases known : s ∈ ["", "infrastructure", "mesh", "adhoc", "ap"]
  · simp only [List.mem_cons, List.not_mem_nil, or_false] at known
    rcases known with rfl | rfl | rfl | rfl | rfl <;> exact iff_of_true rfl (by simp)
  · simp only [List.mem_cons, List.not_mem_nil, or_false, not_or] at known
    simp [TextChoice.check_eq_ok_iff, TextChoice.ofRaw, TextChoice.describe, known,
      Description.unknown, Description.isError]

theorem WifiMode.ofRaw_raw {a : WifiMode} (checked : TextChoice.check a = .ok ()) :
    TextChoice.ofRaw (TextChoice.raw a) = a := by
  cases a with
  | other s => exact absurd checked (TextChoice.check_ne_ok_of_unknown rfl)
  | _ => rfl

theorem KeyMgmt.check_ofRaw (s : String) :
    TextChoice.check (TextChoice.ofRaw s : KeyMgmt) = .ok () ↔ s ∈ (TextChoice.known KeyMgmt) := by
  by_cases known : s ∈ (TextChoice.known KeyMgmt)
  · simp only [TextChoice.known, List.mem_cons, List.not_mem_nil, or_false] at known
    rcases known with rfl | rfl | rfl | rfl | rfl | rfl | rfl | rfl <;>
      exact iff_of_true rfl (by simp [TextChoice.known])
  · simp only [TextChoice.known, List.mem_cons, List.not_mem_nil, or_false, not_or] at known
    simp [TextChoice.check_eq_ok_iff, TextChoice.ofRaw, TextChoice.describe, TextChoice.known,
      known, Description.unknown, Description.isError]

theorem KeyMgmt.ofRaw_raw {a : KeyMgmt} (checked : TextChoice.check a = .ok ()) :
    TextChoice.ofRaw (TextChoice.raw a) = a := by
  cases a with
  | other s => exact absurd checked (TextChoice.check_ne_ok_of_unknown rfl)
  | _ => rfl

theorem GroupCipher.check_ofRaw (s : String) :
    TextChoice.check (TextChoice.ofRaw s : GroupCipher) = .ok () ↔
      s ∈ (TextChoice.known GroupCipher) := by
  by_cases known : s ∈ (TextChoice.known GroupCipher)
  · simp only [TextChoice.known, List.mem_cons, List.not_mem_nil, or_false] at known
    rcases known with rfl | rfl | rfl | rfl <;> exact iff_of_true rfl (by simp [TextChoice.known])
  · simp only [TextChoice.known, List.mem_cons, List.not_mem_nil, or_false, not_or] at known
    simp [TextChoice.check_eq_ok_iff, TextChoice.ofRaw, TextChoice.describe, TextChoice.known,
      known, Description.unknown, Description.isError]

theorem GroupCipher.ofRaw_raw {a : GroupCipher} (checked : TextChoice.check a = .ok ()) :
    TextChoice.ofRaw (TextChoice.raw a) = a := by
  cases a with
  | other s => exact absurd checked (TextChoice.check_ne_ok_of_unknown rfl)
  | _ => rfl

theorem PairwiseCipher.check_ofRaw (s : String) :
    TextChoice.check (TextChoice.ofRaw s : PairwiseCipher) = .ok () ↔
      s ∈ (TextChoice.known PairwiseCipher) := by
  by_cases known : s ∈ (TextChoice.known PairwiseCipher)
  · simp only [TextChoice.known, List.mem_cons, List.not_mem_nil, or_false] at known
    rcases known with rfl | rfl <;> exact iff_of_true rfl (by simp [TextChoice.known])
  · simp only [TextChoice.known, List.mem_cons, List.not_mem_nil, or_false, not_or] at known
    simp [TextChoice.check_eq_ok_iff, TextChoice.ofRaw, TextChoice.describe, TextChoice.known,
      known, Description.unknown, Description.isError]

theorem PairwiseCipher.ofRaw_raw {a : PairwiseCipher} (checked : TextChoice.check a = .ok ()) :
    TextChoice.ofRaw (TextChoice.raw a) = a := by
  cases a with
  | other s => exact absurd checked (TextChoice.check_ne_ok_of_unknown rfl)
  | _ => rfl

theorem WpaProto.check_ofRaw (s : String) :
    TextChoice.check (TextChoice.ofRaw s : WpaProto) = .ok () ↔ s ∈ (TextChoice.known WpaProto) := by
  by_cases known : s ∈ (TextChoice.known WpaProto)
  · simp only [TextChoice.known, List.mem_cons, List.not_mem_nil, or_false] at known
    rcases known with rfl | rfl <;> exact iff_of_true rfl (by simp [TextChoice.known])
  · simp only [TextChoice.known, List.mem_cons, List.not_mem_nil, or_false, not_or] at known
    simp [TextChoice.check_eq_ok_iff, TextChoice.ofRaw, TextChoice.describe, TextChoice.known,
      known, Description.unknown, Description.isError]

theorem WpaProto.ofRaw_raw {a : WpaProto} (checked : TextChoice.check a = .ok ()) :
    TextChoice.ofRaw (TextChoice.raw a) = a := by
  cases a with
  | other s => exact absurd checked (TextChoice.check_ne_ok_of_unknown rfl)
  | _ => rfl

namespace Form

theorem map_eq_ok_iff {α β : Type} {f : α → β} {x : Except Error α} {b : β} :
    f <$> x = .ok b ↔ ∃ a, x = .ok a ∧ f a = b := by
  cases x <;> simp [Functor.map, Except.map]

theorem map_eq_error_iff {α β : Type} {f : α → β} {x : Except Error α} {e : Error} :
    f <$> x = .error e ↔ x = .error e := by
  cases x <;> simp [Functor.map, Except.map]

theorem exists_error_iff {α : Type} (x : Except Error α) :
    (∃ e, x = .error e) ↔ ¬ ∃ a, x = .ok a := by
  cases x <;> simp

theorem checkbox_error_iff {value on off : String} :
    (∃ e, checkbox value on off = .error e) ↔ value ≠ on ∧ value ≠ off := by
  unfold checkbox
  by_cases isOn : value = on
  · simp [isOn]
  · by_cases isOff : value = off
    · subst isOff
      simp [isOn]
    · simp [isOn, isOff]

theorem bounded_eq_ok_iff {raw : String} {n : Int} :
    bounded raw = .ok n ↔ IntRange.i64.parse raw = .ok n ∧ -999 ≤ n ∧ n ≤ 999 := by
  unfold bounded
  cases IntRange.i64.parse raw with
  | error e => simp
  | ok v =>
      by_cases inRange : priorityMin ≤ v ∧ v ≤ priorityMax
      · simp only [priorityMin, priorityMax] at inRange
        simp only [priorityMin, priorityMax, inRange, and_self, if_true, Except.ok.injEq]
        constructor
        · rintro rfl
          exact ⟨rfl, inRange⟩
        · rintro ⟨rfl, -⟩
          rfl
      · simp only [priorityMin, priorityMax] at inRange
        simp only [priorityMin, priorityMax, inRange, if_false]
        simp only [reduceCtorEq, false_iff, not_and, Except.ok.injEq]
        intro same
        subst same
        exact fun lower upper => inRange ⟨lower, upper⟩

theorem channel_eq_ok_iff {raw : String} {c : Nat} :
    channel raw = .ok c ↔ IntRange.i64.parse raw = .ok (c : Int) ∧ c ≤ 999 := by
  unfold channel
  cases read : bounded raw with
  | error e =>
      have refused : ¬ (IntRange.i64.parse raw = .ok (c : Int) ∧ -999 ≤ (c : Int) ∧ (c : Int) ≤ 999) :=
        fun accepted => by rw [← bounded_eq_ok_iff, read] at accepted; cases accepted
      simp only [bind, Except.bind, reduceCtorEq, false_iff]
      exact fun ⟨parsed, below⟩ => refused ⟨parsed, by omega, by omega⟩
  | ok v =>
      obtain ⟨parsed, lower, upper⟩ := bounded_eq_ok_iff.mp read
      by_cases negative : v < 0
      · have differ : v ≠ (c : Int) := by omega
        simp [bind, Except.bind, negative, throw, throwThe, MonadExceptOf.throw, parsed, differ]
      · simp only [bind, Except.bind, negative, if_false, pure, Except.pure, Except.ok.injEq,
          parsed]
        omega

theorem ssid_eq_ok_iff {value : String} {bytes : List UInt8} :
    ssid value = .ok bytes ↔ bytes = value.toUTF8.toList ∧ bytes.length ≤ 32 := by
  unfold ssid
  by_cases long : value.toUTF8.toList.length > ssidMaxBytes
  · simp only [ssidMaxBytes] at long
    simp only [ssidMaxBytes, long, if_true, reduceCtorEq, false_iff, not_and]
    intro same
    subst same
    omega
  · simp only [ssidMaxBytes] at long
    simp only [ssidMaxBytes, long, if_false, Except.ok.injEq]
    constructor
    · intro same
      subst same
      exact ⟨rfl, by omega⟩
    · exact fun ⟨same, _⟩ => same.symm

theorem checked_eq_ok_iff {α : Type} [TextChoice α] {raw : String} {a : α} :
    checked raw = .ok a ↔ a = TextChoice.ofRaw raw ∧ TextChoice.check a = .ok () := by
  unfold checked
  cases checking : TextChoice.check (TextChoice.ofRaw raw : α) with
  | error e =>
      simp only [bind, Except.bind, checking, reduceCtorEq, false_iff, not_and]
      rintro rfl
      simp [checking]
  | ok u =>
      cases u
      simp only [bind, Except.bind, checking, pure, Except.pure, Except.ok.injEq]
      constructor
      · rintro rfl
        exact ⟨rfl, checking⟩
      · rintro ⟨rfl, -⟩
        rfl

theorem ChoiceSet.check_eq_ok_iff {α : Type} [TextChoice α] (s : ChoiceSet α) :
    s.check = .ok () ↔ ∀ a ∈ s.members, TextChoice.check a = .ok () := by
  obtain ⟨members⟩ := s
  simp only [ChoiceSet.check]
  induction members with
  | nil => simp [pure, Except.pure]
  | cons a rest ih =>
      show (TextChoice.check a >>= fun _ => rest.forM TextChoice.check) = _ ↔ _
      cases checking : TextChoice.check a with
      | error e => simp [bind, Except.bind, checking]
      | ok u =>
          cases u
          simp only [bind, Except.bind, ih, List.mem_cons, forall_eq_or_imp, checking, true_and]

theorem choiceSet_eq_ok_iff {α : Type} [TextChoice α] {values : List String} {s : ChoiceSet α} :
    choiceSet values = .ok s ↔
      (∀ v ∈ values, v ≠ "" → TextChoice.check (TextChoice.ofRaw v : α) = .ok ()) ∧
        s = (ChoiceSet.ofRaws (values.filter (· != ""))).normalize := by
  have members : (∀ v ∈ values, v ≠ "" → TextChoice.check (TextChoice.ofRaw v : α) = .ok ()) ↔
      (ChoiceSet.ofRaws (values.filter (· != "")) : ChoiceSet α).check = .ok () := by
    rw [ChoiceSet.check_eq_ok_iff]
    simp only [ChoiceSet.ofRaws, List.mem_map, List.mem_filter, bne_iff_ne, ne_eq]
    constructor
    · rintro known a ⟨v, ⟨member, blank⟩, rfl⟩
      exact known v member blank
    · exact fun known v member blank => known _ ⟨v, ⟨member, blank⟩, rfl⟩
  unfold choiceSet
  cases checking : (ChoiceSet.ofRaws (values.filter (· != "")) : ChoiceSet α).check with
  | error e =>
      have refused := (not_congr members).mpr (by simp [checking])
      simp only [bind, Except.bind, checking, reduceCtorEq, false_iff, not_and]
      exact fun accepted => absurd accepted refused
  | ok u =>
      have accepted := members.mpr (by cases u; exact checking)
      simp only [bind, Except.bind, checking, pure, Except.pure, Except.ok.injEq]
      exact ⟨fun same => ⟨accepted, same.symm⟩, fun ⟨_, same⟩ => same.symm⟩

end Form

def editableKeys : List (String × String) :=
  [(Setting.connection, "autoconnect"), (Setting.connection, "autoconnect-priority"),
    (Setting.wifi, "band"), (Setting.wifi, "channel"), (Setting.wifi, "hidden"),
    (Setting.wifi, "mode"), (Setting.wifi, "ssid"), (Setting.wifiSecurity, "group"),
    (Setting.wifiSecurity, "key-mgmt"), (Setting.wifiSecurity, "pairwise"),
    (Setting.wifiSecurity, "proto"), (Setting.wifiSecurity, "psk")]

theorem Update.key_editable (u : Update) :
    u.key.remainder = none ∧ (u.key.setting, u.key.key) ∈ editableKeys := by
  cases u <;> simp [Update.key, editableKeys]

/-- A set the rules accept: every member is known, and the set is empty or short of some known
value. -/
def ChoiceSet.Valid {α : Type} [TextChoice α] (s : ChoiceSet α) : Prop :=
  (∀ a ∈ s.members, TextChoice.check a = .ok ()) ∧ (s.members = [] ∨ s.coversAllKnown = false)

def Update.Valid : Update → Prop
  | .autoconnect _ | .hidden _ | .psk _ => True
  | .autoconnectPriority n => -999 ≤ n ∧ n ≤ 999
  | .channel c => c ≤ 999
  | .band b => TextChoice.check b = .ok ()
  | .mode m => TextChoice.check m = .ok ()
  | .keyMgmt k => TextChoice.check k = .ok ()
  | .ssid bytes => bytes.length ≤ 32
  | .group s => s.Valid
  | .pairwise s => s.Valid
  | .proto s => s.Valid

namespace Form

/-- The values the rule of each editable field refuses; a key that names no editable field
refuses nothing. A set refuses a non-blank value it does not know, and every other field looks
at its last value only. -/
def Rejects (key : SettingsKey) (values : List String) : Prop :=
  let last := values.getLast?.getD ""
  let is (setting name : String) := key.setting == setting && key.key == name
  if is "connection" "autoconnect" then last ≠ "on" ∧ last ≠ "off"
  else if is "connection" "autoconnect-priority" then
    ¬ ∃ n, IntRange.i64.parse last = .ok n ∧ -999 ≤ n ∧ n ≤ 999
  else if is "802-11-wireless" "band" then last ∉ ["a", "bg", ""]
  else if is "802-11-wireless" "channel" then
    ¬ ∃ n, IntRange.i64.parse last = .ok n ∧ 0 ≤ n ∧ n ≤ 999
  else if is "802-11-wireless" "hidden" then last ≠ "true" ∧ last ≠ "false"
  else if is "802-11-wireless" "mode" then
    last ∉ ["", "infrastructure", "mesh", "adhoc", "ap"]
  else if is "802-11-wireless" "ssid" then 32 < last.toUTF8.toList.length
  else if is "802-11-wireless-security" "group" then
    ∃ v ∈ values, v ≠ "" ∧ v ∉ TextChoice.known GroupCipher
  else if is "802-11-wireless-security" "key-mgmt" then last ∉ TextChoice.known KeyMgmt
  else if is "802-11-wireless-security" "pairwise" then
    ∃ v ∈ values, v ≠ "" ∧ v ∉ TextChoice.known PairwiseCipher
  else if is "802-11-wireless-security" "proto" then
    ∃ v ∈ values, v ≠ "" ∧ v ∉ TextChoice.known WpaProto
  else False

theorem choiceSet_valid {α : Type} [TextChoice α] {values : List String} {s : ChoiceSet α}
    (accepted : choiceSet values = .ok s) : s.Valid := by
  obtain ⟨known, rfl⟩ := choiceSet_eq_ok_iff.mp accepted
  simp only [ChoiceSet.Valid, ChoiceSet.normalize]
  by_cases covers : (ChoiceSet.ofRaws (values.filter (· != "")) : ChoiceSet α).coversAllKnown = true
  · simp [covers]
  · rw [if_neg covers]
    refine ⟨?_, .inr (by simpa using covers)⟩
    simp only [ChoiceSet.ofRaws, List.mem_map, List.mem_filter, bne_iff_ne]
    rintro a ⟨v, ⟨member, blank⟩, rfl⟩
    exact known v member blank

private theorem channel_range_iff (last : String) :
    (∃ c : Nat, IntRange.i64.parse last = .ok (c : Int) ∧ c ≤ 999) ↔
      ∃ n, IntRange.i64.parse last = .ok n ∧ 0 ≤ n ∧ n ≤ 999 := by
  constructor
  · rintro ⟨c, parsed, upper⟩
    exact ⟨c, parsed, by omega, by omega⟩
  · rintro ⟨n, parsed, lower, upper⟩
    exact ⟨n.toNat, by rw [Int.toNat_of_nonneg lower]; exact parsed, by omega⟩

theorem parseField_of_not_editable {key : SettingsKey} (values : List String)
    (other : (key.setting, key.key) ∉ editableKeys) : parseField key values = .ok none := by
  obtain ⟨setting, name, remainder⟩ := key
  simp only [editableKeys, List.mem_cons, Prod.mk.injEq, List.not_mem_nil, or_false, not_or]
    at other
  simp only [parseField]
  by_cases connection : setting = Setting.connection
  · subst connection
    simp_all
  by_cases wifi : setting = Setting.wifi
  · subst wifi
    simp_all [Setting.connection, Setting.wifi]
  by_cases security : setting = Setting.wifiSecurity
  · subst security
    simp_all [Setting.connection, Setting.wifi, Setting.wifiSecurity]
  simp [connection, wifi, security]

theorem not_rejects_of_not_editable {key : SettingsKey} (values : List String)
    (other : (key.setting, key.key) ∉ editableKeys) : ¬ Rejects key values := by
  obtain ⟨setting, name, remainder⟩ := key
  simp only [editableKeys, Setting.connection, Setting.wifi, Setting.wifiSecurity, List.mem_cons,
    Prod.mk.injEq, List.not_mem_nil, or_false, not_or] at other
  obtain ⟨c1, c2, c3, c4, c5, c6, c7, c8, c9, c10, c11, -⟩ := other
  simp only [Rejects, Bool.and_eq_true, beq_iff_eq, c1, c2, c3, c4, c5, c6, c7, c8, c9, c10, c11,
    if_false, not_false_eq_true]

section Dispatch

variable (remainder : Option String) (values : List String)

theorem parseField_autoconnect :
    parseField ⟨Setting.connection, "autoconnect", remainder⟩ values =
      (some ∘ .autoconnect) <$> checkbox (values.getLast?.getD "") "on" "off" := rfl

theorem parseField_autoconnectPriority :
    parseField ⟨Setting.connection, "autoconnect-priority", remainder⟩ values =
      (some ∘ .autoconnectPriority) <$> bounded (values.getLast?.getD "") := rfl

theorem parseField_band :
    parseField ⟨Setting.wifi, "band", remainder⟩ values =
      (some ∘ .band) <$> checked (values.getLast?.getD "") := rfl

theorem parseField_channel :
    parseField ⟨Setting.wifi, "channel", remainder⟩ values =
      (some ∘ .channel) <$> channel (values.getLast?.getD "") := rfl

theorem parseField_hidden :
    parseField ⟨Setting.wifi, "hidden", remainder⟩ values =
      (some ∘ .hidden) <$> checkbox (values.getLast?.getD "") "true" "false" := rfl

theorem parseField_mode :
    parseField ⟨Setting.wifi, "mode", remainder⟩ values =
      (some ∘ .mode) <$> checked (values.getLast?.getD "") := rfl

theorem parseField_ssid :
    parseField ⟨Setting.wifi, "ssid", remainder⟩ values =
      (some ∘ .ssid) <$> ssid (values.getLast?.getD "") := rfl

theorem parseField_group :
    parseField ⟨Setting.wifiSecurity, "group", remainder⟩ values =
      (some ∘ .group) <$> choiceSet values := rfl

theorem parseField_keyMgmt :
    parseField ⟨Setting.wifiSecurity, "key-mgmt", remainder⟩ values =
      (some ∘ .keyMgmt) <$> checked (values.getLast?.getD "") := rfl

theorem parseField_pairwise :
    parseField ⟨Setting.wifiSecurity, "pairwise", remainder⟩ values =
      (some ∘ .pairwise) <$> choiceSet values := rfl

theorem parseField_proto :
    parseField ⟨Setting.wifiSecurity, "proto", remainder⟩ values =
      (some ∘ .proto) <$> choiceSet values := rfl

theorem parseField_psk :
    parseField ⟨Setting.wifiSecurity, "psk", remainder⟩ values =
      .ok (some (.psk (values.getLast?.getD ""))) := rfl

end Dispatch

private theorem choiceSet_refused_iff {α : Type} [TextChoice α] {values : List String}
    (known : ∀ s, TextChoice.check (TextChoice.ofRaw s : α) = .ok () ↔ s ∈ TextChoice.known α) :
    (¬ ∃ s : ChoiceSet α, choiceSet values = .ok s) ↔
      ∃ v ∈ values, v ≠ "" ∧ v ∉ TextChoice.known α := by
  simp only [choiceSet_eq_ok_iff, exists_and_left, known]
  simp

theorem parseField_error_iff (key : SettingsKey) (values : List String) :
    (∃ e, parseField key values = .error e) ↔ Rejects key values := by
  obtain ⟨setting, name, remainder⟩ := key
  by_cases editable : (setting, name) ∈ editableKeys
  · simp only [editableKeys, List.mem_cons, Prod.mk.injEq, List.not_mem_nil, or_false] at editable
    rcases editable with ⟨rfl, rfl⟩ | ⟨rfl, rfl⟩ | ⟨rfl, rfl⟩ | ⟨rfl, rfl⟩ | ⟨rfl, rfl⟩ | ⟨rfl, rfl⟩ |
      ⟨rfl, rfl⟩ | ⟨rfl, rfl⟩ | ⟨rfl, rfl⟩ | ⟨rfl, rfl⟩ | ⟨rfl, rfl⟩ | ⟨rfl, rfl⟩
    · rw [parseField_autoconnect, exists_congr fun _ => map_eq_error_iff, checkbox_error_iff]
      simp [Rejects, Setting.connection]
    · rw [parseField_autoconnectPriority, exists_congr fun _ => map_eq_error_iff, exists_error_iff]
      simp [Rejects, Setting.connection, bounded_eq_ok_iff]
    · rw [parseField_band, exists_congr fun _ => map_eq_error_iff, exists_error_iff]
      simp [Rejects, Setting.wifi, checked_eq_ok_iff, WifiBand.check_ofRaw]
    · rw [parseField_channel, exists_congr fun _ => map_eq_error_iff, exists_error_iff]
      simp only [channel_eq_ok_iff, channel_range_iff]
      simp [Rejects, Setting.wifi]
    · rw [parseField_hidden, exists_congr fun _ => map_eq_error_iff, checkbox_error_iff]
      simp [Rejects, Setting.wifi]
    · rw [parseField_mode, exists_congr fun _ => map_eq_error_iff, exists_error_iff]
      simp [Rejects, Setting.wifi, checked_eq_ok_iff, WifiMode.check_ofRaw]
    · rw [parseField_ssid, exists_congr fun _ => map_eq_error_iff, exists_error_iff]
      simp [Rejects, Setting.wifi, ssid_eq_ok_iff]
    · rw [parseField_group, exists_congr fun _ => map_eq_error_iff, exists_error_iff,
        choiceSet_refused_iff GroupCipher.check_ofRaw]
      simp [Rejects, Setting.wifiSecurity]
    · rw [parseField_keyMgmt, exists_congr fun _ => map_eq_error_iff, exists_error_iff]
      simp [Rejects, Setting.wifiSecurity, checked_eq_ok_iff, KeyMgmt.check_ofRaw]
    · rw [parseField_pairwise, exists_congr fun _ => map_eq_error_iff, exists_error_iff,
        choiceSet_refused_iff PairwiseCipher.check_ofRaw]
      simp [Rejects, Setting.wifiSecurity]
    · rw [parseField_proto, exists_congr fun _ => map_eq_error_iff, exists_error_iff,
        choiceSet_refused_iff WpaProto.check_ofRaw]
      simp [Rejects, Setting.wifiSecurity]
    · rw [parseField_psk]
      simp [Rejects, Setting.wifiSecurity]
  · exact iff_of_false (by rw [parseField_of_not_editable values editable]; simp)
      (not_rejects_of_not_editable values editable)

theorem parseField_remainder (setting name : String) (remainder : Option String)
    (values : List String) :
    parseField ⟨setting, name, remainder⟩ values = parseField ⟨setting, name, none⟩ values := rfl

private theorem map_some_eq_ok_iff {α : Type} {f : α → Update} {x : Except Error α} {u : Update} :
    (some ∘ f) <$> x = .ok (some u) ↔ ∃ a, x = .ok a ∧ f a = u := by
  simp [map_eq_ok_iff]

theorem parseField_some {key : SettingsKey} {values : List String} {u : Update}
    (accepted : parseField key values = .ok (some u)) :
    u.key = ⟨key.setting, key.key, none⟩ ∧ u.Valid := by
  obtain ⟨setting, name, remainder⟩ := key
  by_cases editable : (setting, name) ∈ editableKeys
  · simp only [editableKeys, List.mem_cons, Prod.mk.injEq, List.not_mem_nil, or_false] at editable
    rcases editable with ⟨rfl, rfl⟩ | ⟨rfl, rfl⟩ | ⟨rfl, rfl⟩ | ⟨rfl, rfl⟩ | ⟨rfl, rfl⟩ | ⟨rfl, rfl⟩ |
      ⟨rfl, rfl⟩ | ⟨rfl, rfl⟩ | ⟨rfl, rfl⟩ | ⟨rfl, rfl⟩ | ⟨rfl, rfl⟩ | ⟨rfl, rfl⟩
    · obtain ⟨_, -, rfl⟩ := map_some_eq_ok_iff.mp (parseField_autoconnect .. ▸ accepted)
      exact ⟨rfl, trivial⟩
    · obtain ⟨_, read, rfl⟩ := map_some_eq_ok_iff.mp (parseField_autoconnectPriority .. ▸ accepted)
      exact ⟨rfl, (bounded_eq_ok_iff.mp read).2⟩
    · obtain ⟨_, read, rfl⟩ := map_some_eq_ok_iff.mp (parseField_band .. ▸ accepted)
      exact ⟨rfl, (checked_eq_ok_iff.mp read).2⟩
    · obtain ⟨_, read, rfl⟩ := map_some_eq_ok_iff.mp (parseField_channel .. ▸ accepted)
      exact ⟨rfl, (channel_eq_ok_iff.mp read).2⟩
    · obtain ⟨_, -, rfl⟩ := map_some_eq_ok_iff.mp (parseField_hidden .. ▸ accepted)
      exact ⟨rfl, trivial⟩
    · obtain ⟨_, read, rfl⟩ := map_some_eq_ok_iff.mp (parseField_mode .. ▸ accepted)
      exact ⟨rfl, (checked_eq_ok_iff.mp read).2⟩
    · obtain ⟨_, read, rfl⟩ := map_some_eq_ok_iff.mp (parseField_ssid .. ▸ accepted)
      exact ⟨rfl, (ssid_eq_ok_iff.mp read).2⟩
    · obtain ⟨_, read, rfl⟩ := map_some_eq_ok_iff.mp (parseField_group .. ▸ accepted)
      exact ⟨rfl, choiceSet_valid read⟩
    · obtain ⟨_, read, rfl⟩ := map_some_eq_ok_iff.mp (parseField_keyMgmt .. ▸ accepted)
      exact ⟨rfl, (checked_eq_ok_iff.mp read).2⟩
    · obtain ⟨_, read, rfl⟩ := map_some_eq_ok_iff.mp (parseField_pairwise .. ▸ accepted)
      exact ⟨rfl, choiceSet_valid read⟩
    · obtain ⟨_, read, rfl⟩ := map_some_eq_ok_iff.mp (parseField_proto .. ▸ accepted)
      exact ⟨rfl, choiceSet_valid read⟩
    · rw [parseField_psk] at accepted
      cases accepted
      exact ⟨rfl, trivial⟩
  · rw [parseField_of_not_editable values editable] at accepted
    cases accepted

theorem parseField_none_iff (key : SettingsKey) (values : List String) :
    parseField key values = .ok none ↔ (key.setting, key.key) ∉ editableKeys := by
  refine ⟨fun ignored editable => ?_, parseField_of_not_editable values⟩
  obtain ⟨setting, name, remainder⟩ := key
  simp only [editableKeys, List.mem_cons, Prod.mk.injEq, List.not_mem_nil, or_false] at editable
  rcases editable with ⟨rfl, rfl⟩ | ⟨rfl, rfl⟩ | ⟨rfl, rfl⟩ | ⟨rfl, rfl⟩ | ⟨rfl, rfl⟩ | ⟨rfl, rfl⟩ |
    ⟨rfl, rfl⟩ | ⟨rfl, rfl⟩ | ⟨rfl, rfl⟩ | ⟨rfl, rfl⟩ | ⟨rfl, rfl⟩ | ⟨rfl, rfl⟩ <;>
  simp [parseField_autoconnect, parseField_autoconnectPriority, parseField_band,
    parseField_channel, parseField_hidden, parseField_mode, parseField_ssid, parseField_group,
    parseField_keyMgmt, parseField_pairwise, parseField_proto, parseField_psk, map_eq_ok_iff]
      at ignored

end Form

end NetConsole
