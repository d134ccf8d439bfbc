import NetConsole.Proofs.FieldRules
import NetConsole.Proofs.UpdateSet

/-! Translating a form into an update set: it stops at the first field whose rule refuses its
values, and otherwise holds at each field the update its rule makes of the values submitted. -/

namespace NetConsole

namespace Form

def names (raw setting key : String) : Bool :=
  match SettingsKey.parse raw with
  | .ok k => k.setting == setting && k.key == key
  | .error _ => false

def submittedIn (fields : List (String × List String)) (setting key : String) :
    Option (List String) :=
  ((fields.filter fun f => names f.1 setting key).getLast?).map (·.2)

def submitted (form : Form) (setting key : String) : Option (List String) :=
  submittedIn form.fields setting key

/-- A field its rule refuses: its key is a settings key, and the rule of the field the key names
refuses its values. -/
def Refused (field : String × List String) : Prop :=
  ∃ key, SettingsKey.parse field.1 = .ok key ∧ Rejects key field.2

theorem names_iff {raw setting key : String} :
    names raw setting key = true ↔
      ∃ remainder, SettingsKey.parse raw = .ok ⟨setting, key, remainder⟩ := by
  unfold names
  cases SettingsKey.parse raw with
  | error _ => simp
  | ok k =>
      obtain ⟨s, n, r⟩ := k
      simp only [Bool.and_eq_true, beq_iff_eq, Except.ok.injEq, SettingsKey.mk.injEq]
      constructor
      · rintro ⟨rfl, rfl⟩
        exact ⟨r, rfl, rfl, rfl⟩
      · rintro ⟨_, rfl, rfl, -⟩
        exact ⟨rfl, rfl⟩

theorem submittedIn_cons (field : String × List String) (rest : List (String × List String))
    (setting key : String) :
    submittedIn (field :: rest) setting key =
      (submittedIn rest setting key).or
        (if names field.1 setting key then some field.2 else none) := by
  unfold submittedIn
  by_cases named : names field.1 setting key = true
  · rw [List.filter_cons, if_pos named, List.getLast?_cons]
    cases (rest.filter fun f => names f.1 setting key).getLast? <;> simp [named]
  · rw [List.filter_cons, if_neg named]
    simp [named]

section Outcome

variable {raw : String} {values : List String}

theorem fieldOutcome_eq_failed_iff {e : Error} :
    fieldOutcome raw values = .failed e ↔
      ∃ key cause, SettingsKey.parse raw = .ok key ∧ parseField key values = .error cause ∧
        e = .invalidSetting key.text (shownValue key values) cause := by
  unfold fieldOutcome
  cases SettingsKey.parse raw with
  | error _ => simp
  | ok key =>
      cases read : parseField key values with
      | error cause => simp [read, eq_comm]
      | ok r => cases r <;> simp [read]

theorem refused_iff : Refused (raw, values) ↔ ∃ e, fieldOutcome raw values = .failed e := by
  simp only [Refused, fieldOutcome_eq_failed_iff, ← parseField_error_iff]
  constructor
  · rintro ⟨key, parsed, cause, read⟩
    exact ⟨_, key, cause, parsed, read, rfl⟩
  · rintro ⟨_, key, cause, parsed, read, -⟩
    exact ⟨key, parsed, cause, read⟩

theorem names_of_skipped (skipped : fieldOutcome raw values = .skipped) (setting key : String) :
    names raw setting key = false := by
  unfold fieldOutcome at skipped
  unfold names
  cases parsed : SettingsKey.parse raw with
  | error _ => rfl
  | ok k =>
      simp only [parsed] at skipped
      cases read : parseField k values with
      | error _ => simp [read] at skipped
      | ok r => cases r <;> simp [read] at skipped

theorem parse_of_ignored {key : SettingsKey} (ignored : fieldOutcome raw values = .ignored key) :
    SettingsKey.parse raw = .ok key ∧ (key.setting, key.key) ∉ editableKeys := by
  unfold fieldOutcome at ignored
  cases parsed : SettingsKey.parse raw with
  | error _ => simp [parsed] at ignored
  | ok k =>
      simp only [parsed] at ignored
      cases read : parseField k values with
      | error _ => simp [read] at ignored
      | ok r =>
          cases r with
          | none =>
              simp only [read, FieldOutcome.ignored.injEq] at ignored
              subst ignored
              exact ⟨rfl, (parseField_none_iff k values).mp read⟩
          | some _ => simp [read] at ignored

theorem parse_of_update {u : Update} (update : fieldOutcome raw values = .update u) :
    ∃ key, SettingsKey.parse raw = .ok key ∧ parseField key values = .ok (some u) := by
  unfold fieldOutcome at update
  cases parsed : SettingsKey.parse raw with
  | error _ => simp [parsed] at update
  | ok k =>
      simp only [parsed] at update
      cases read : parseField k values with
      | error _ => simp [read] at update
      | ok r =>
          cases r with
          | none => simp [read] at update
          | some v =>
              simp only [read, FieldOutcome.update.injEq] at update
              exact ⟨k, rfl, update ▸ read⟩

end Outcome

def FieldOutcome.failure? : FieldOutcome → Option Error
  | .failed e => some e
  | _ => none

theorem failure?_eq_some_iff {raw : String} {values : List String} {e : Error} :
    (fieldOutcome raw values).failure? = some e ↔ fieldOutcome raw values = .failed e := by
  cases fieldOutcome raw values <;> simp [FieldOutcome.failure?]

theorem failure?_eq_none_iff {raw : String} {values : List String} :
    (fieldOutcome raw values).failure? = none ↔ ¬ Refused (raw, values) := by
  rw [refused_iff]
  cases fieldOutcome raw values <;> simp [FieldOutcome.failure?]

theorem translateFields_eq_error_iff (fields : List (String × List String)) (us : Updates)
    (e : Error) :
    translateFields fields us = .error e ↔
      fields.findSome? (fun f => (fieldOutcome f.1 f.2).failure?) = some e := by
  induction fields generalizing us with
  | nil => simp [translateFields]
  | cons field rest ih =>
      obtain ⟨raw, values⟩ := field
      rw [List.findSome?_cons]
      cases outcome : fieldOutcome raw values with
      | failed e' => simp [translateFields, outcome, FieldOutcome.failure?]
      | update u => simp only [translateFields, outcome, FieldOutcome.failure?, ih]
      | skipped => simp only [translateFields, outcome, FieldOutcome.failure?, ih]
      | ignored _ => simp only [translateFields, outcome, FieldOutcome.failure?, ih]

theorem translateFields_ok_or_error (fields : List (String × List String)) (us : Updates) :
    (∃ us', translateFields fields us = .ok us') ∨ ∃ e, translateFields fields us = .error e := by
  cases translateFields fields us with
  | ok us' => exact .inl ⟨us', rfl⟩
  | error e => exact .inr ⟨e, rfl⟩

theorem translateFields_ok_iff (fields : List (String × List String)) (us : Updates) :
    (∃ us', translateFields fields us = .ok us') ↔ ∀ f ∈ fields, ¬ Refused f := by
  have failures : (∀ f ∈ fields, ¬ Refused f) ↔
      fields.findSome? (fun f => (fieldOutcome f.1 f.2).failure?) = none := by
    rw [List.findSome?_eq_none_iff]
    exact forall₂_congr fun f _ => failure?_eq_none_iff.symm
  rw [failures]
  rcases translateFields_ok_or_error fields us with ⟨us', accepted⟩ | ⟨e, refused⟩
  · refine iff_of_true ⟨us', accepted⟩ ?_
    cases found : fields.findSome? (fun f => (fieldOutcome f.1 f.2).failure?) with
    | none => rfl
    | some e => rw [← translateFields_eq_error_iff fields us, accepted] at found; cases found
  · rw [(translateFields_eq_error_iff fields us e).mp refused]
    simp [refused]

theorem Updates.find?_of_not_editable (us : Updates) {setting key : String}
    (other : (setting, key) ∉ editableKeys) : us.find? setting key = none := by
  cases found : us.find? setting key with
  | none => rfl
  | some u =>
      obtain ⟨setting_eq, key_eq⟩ := Updates.find?_writes found
      exact absurd (setting_eq ▸ key_eq ▸ (Update.key_editable u).2) other

/-- An accepted translation holds at each field what the field's rule makes of the values last
submitted for it, and what it held before at a field no key names. The induction runs over the
fields, with the updates so far generalised. -/
theorem find?_translateFields {fields : List (String × List String)} {us us' : Updates}
    (accepted : translateFields fields us = .ok us') (setting key : String) :
    match submittedIn fields setting key with
    | some values => parseField ⟨setting, key, none⟩ values = .ok (us'.find? setting key)
    | none => us'.find? setting key = us.find? setting key := by
  induction fields generalizing us with
  | nil =>
      simp only [translateFields, Except.ok.injEq] at accepted
      subst accepted
      rfl
  | cons field rest ih =>
      obtain ⟨raw, values⟩ := field
      rw [submittedIn_cons]
      cases outcome : fieldOutcome raw values with
      | failed e => simp [translateFields, outcome] at accepted
      | skipped =>
          simp only [translateFields, outcome] at accepted
          simpa [names_of_skipped outcome] using ih accepted
      | ignored k =>
          simp only [translateFields, outcome] at accepted
          have later := ih accepted
          cases found : submittedIn rest setting key with
          | some v => simpa [found] using later
          | none =>
              simp only [found] at later ⊢
              obtain ⟨parsed, other⟩ := parse_of_ignored outcome
              by_cases named : names raw setting key = true
              · -- the key names a field that is not editable
                obtain ⟨r, same⟩ := names_iff.mp named
                rw [parsed, Except.ok.injEq] at same
                subst same
                simp only [named, if_true, Option.none_or]
                rw [later, Updates.find?_of_not_editable us other, parseField_remainder]
                exact (parseField_none_iff _ values).mpr other
              · simpa [named] using later
      | update u =>
          simp only [translateFields, outcome] at accepted
          have later := ih accepted
          cases found : submittedIn rest setting key with
          | some v => simpa [found] using later
          | none =>
              simp only [found] at later ⊢
              obtain ⟨k, parsed, read⟩ := parse_of_update outcome
              have writes := (parseField_some read).1
              rw [later, Updates.find?_insert, writes]
              by_cases named : names raw setting key = true
              · obtain ⟨r, same⟩ := names_iff.mp named
                rw [parsed, Except.ok.injEq] at same
                subst same
                simp only [named, if_true, and_self, Option.none_or]
                rw [← parseField_remainder _ _ r]
                exact read
              · have elsewhere : ¬ (k.setting = setting ∧ k.key = key) := by
                  rintro ⟨rfl, rfl⟩
                  exact named (names_iff.mpr ⟨k.remainder, parsed⟩)
                simp [named, elsewhere]

theorem mem_before_iff {fields : List (String × List String)} (ordered : KeysOrdered fields)
    {pre post : List (String × List String)} {field : String × List String}
    (split : fields = pre ++ field :: post) (f : String × List String) :
    f ∈ pre ↔ f ∈ fields ∧ f.1 < field.1 := by
  subst split
  simp only [KeysOrdered, List.pairwise_append, List.pairwise_cons] at ordered
  obtain ⟨-, ⟨above, -⟩, across⟩ := ordered
  constructor
  · intro member
    exact ⟨List.mem_append_left _ member, across f member field List.mem_cons_self⟩
  · rintro ⟨member, below⟩
    rcases List.mem_append.mp member with before | after
    · exact before
    · rcases List.mem_cons.mp after with rfl | later
      · exact absurd below (String.lt_irrefl _)
      · exact absurd (above f later) (String.lt_asymm below)

theorem translateFields_form_eq_error_iff (form : Form) (us : Updates) (e : Error) :
    translateFields form.fields us = .error e ↔
      ∃ raw values, (raw, values) ∈ form.fields ∧ fieldOutcome raw values = .failed e ∧
        ∀ f ∈ form.fields, f.1 < raw → ¬ Refused f := by
  rw [translateFields_eq_error_iff, List.findSome?_eq_some_iff]
  constructor
  · rintro ⟨pre, ⟨raw, values⟩, post, split, failed, clean⟩
    refine ⟨raw, values, split ▸ List.mem_append_right _ List.mem_cons_self,
      failure?_eq_some_iff.mp failed, fun f member below => ?_⟩
    have before := (mem_before_iff form.ordered split f).mpr ⟨member, below⟩
    exact failure?_eq_none_iff.mp (clean f before)
  · rintro ⟨raw, values, member, failed, clean⟩
    obtain ⟨pre, post, split⟩ := List.mem_iff_append.mp member
    refine ⟨pre, (raw, values), post, split, failure?_eq_some_iff.mpr failed, fun f before => ?_⟩
    obtain ⟨member', below⟩ := (mem_before_iff form.ordered split f).mp before
    exact failure?_eq_none_iff.mpr (clean f member' below)

theorem submittedIn_isSome_iff (fields : List (String × List String)) (setting key : String) :
    (submittedIn fields setting key).isSome ↔ ∃ f ∈ fields, names f.1 setting key = true := by
  simp only [submittedIn, Option.isSome_map, List.getLast?_isSome, ne_eq, List.filter_eq_nil_iff]
  simp

section Accepted

variable {fields : List (String × List String)} {us : Updates}

/-- From no updates, an accepted translation holds an update exactly at the editable fields some
key names, and there the update its rule makes of the values last submitted. -/
theorem find?_of_accepted (accepted : translateFields fields .empty = .ok us) (setting key : String) :
    match submittedIn fields setting key with
    | some values => parseField ⟨setting, key, none⟩ values = .ok (us.find? setting key)
    | none => us.find? setting key = none :=
  find?_translateFields accepted setting key

theorem find?_psk_of_accepted (accepted : translateFields fields .empty = .ok us) :
    us.find? Setting.wifiSecurity "psk" =
      (submittedIn fields Setting.wifiSecurity "psk").map fun values =>
        .psk (values.getLast?.getD "") := by
  have read := find?_of_accepted accepted Setting.wifiSecurity "psk"
  cases found : submittedIn fields Setting.wifiSecurity "psk" with
  | none => simpa [found] using read
  | some values =>
      simp only [found, parseField_psk, Except.ok.injEq] at read
      simp [read]

theorem find?_keyMgmt_of_accepted (accepted : translateFields fields .empty = .ok us) :
    us.find? Setting.wifiSecurity "key-mgmt" =
      (submittedIn fields Setting.wifiSecurity "key-mgmt").map fun values =>
        .keyMgmt (TextChoice.ofRaw (values.getLast?.getD "")) := by
  have read := find?_of_accepted accepted Setting.wifiSecurity "key-mgmt"
  cases found : submittedIn fields Setting.wifiSecurity "key-mgmt" with
  | none => simpa [found] using read
  | some values =>
      simp only [found, parseField_keyMgmt, map_eq_ok_iff] at read
      obtain ⟨k, checked, same⟩ := read
      rw [← same, (checked_eq_ok_iff.mp checked).1]
      rfl

theorem find?_band_of_accepted (accepted : translateFields fields .empty = .ok us) :
    us.find? Setting.wifi "band" =
      (submittedIn fields Setting.wifi "band").map fun values =>
        .band (TextChoice.ofRaw (values.getLast?.getD "")) := by
  have read := find?_of_accepted accepted Setting.wifi "band"
  cases found : submittedIn fields Setting.wifi "band" with
  | none => simpa [found] using read
  | some values =>
      simp only [found, parseField_band, map_eq_ok_iff] at read
      obtain ⟨b, checked, same⟩ := read
      rw [← same, (checked_eq_ok_iff.mp checked).1]
      rfl

theorem find?_ssid_of_accepted (accepted : translateFields fields .empty = .ok us) :
    us.find? Setting.wifi "ssid" =
      (submittedIn fields Setting.wifi "ssid").map fun values =>
        .ssid (values.getLast?.getD "").toUTF8.toList := by
  have read := find?_of_accepted accepted Setting.wifi "ssid"
  cases found : submittedIn fields Setting.wifi "ssid" with
  | none => simpa [found] using read
  | some values =>
      simp only [found, parseField_ssid, map_eq_ok_iff] at read
      obtain ⟨bytes, read, same⟩ := read
      rw [← same, (ssid_eq_ok_iff.mp read).1]
      rfl

theorem find?_channel_of_accepted (accepted : translateFields fields .empty = .ok us) (c : Nat) :
    us.find? Setting.wifi "channel" = some (.channel c) ↔
      ∃ values, submittedIn fields Setting.wifi "channel" = some values ∧
        IntRange.i64.parse (values.getLast?.getD "") = .ok (c : Int) := by
  have read := find?_of_accepted accepted Setting.wifi "channel"
  cases found : submittedIn fields Setting.wifi "channel" with
  | none => simp_all
  | some values =>
      simp only [found, parseField_channel, map_eq_ok_iff] at read
      obtain ⟨c', read, same⟩ := read
      have parsed := (channel_eq_ok_iff.mp read).1
      rw [← same]
      simp only [Function.comp_apply, Option.some.injEq, Update.channel.injEq, exists_eq_left',
        parsed, Except.ok.injEq, Int.natCast_inj]

end Accepted

theorem WifiBand.ofRaw_eq_any_iff (s : String) : (TextChoice.ofRaw s : WifiBand) = .any ↔ s = "" := by
  simp only [TextChoice.ofRaw]
  split <;> simp_all

theorem checkChannelBand_eq_error_iff (us : Updates) (e : Error) :
    checkChannelBand us = .error e ↔
      ∃ c, us.find? Setting.wifi "channel" = some (.channel c) ∧ c ≠ 0 ∧
        (∀ b, us.find? Setting.wifi "band" = some (.band b) → b = .any) ∧
        e = checkChannelBand.failure c := by
  unfold checkChannelBand
  split
  · rename_i c found
    by_cases zero : c = 0
    · simp [zero, found]
    · simp only [found, Option.some.injEq, Update.channel.injEq, exists_eq_left', ne_eq, zero,
        not_false_eq_true, true_and, beq_iff_eq, if_false]
      split
      · rename_i b band
        by_cases any : b = .any
        · simp [any, band, eq_comm]
        · simp [any, band]
      · rename_i notBand
        have anyBand : ∀ b, us.find? Setting.wifi "band" = some (.band b) → b = .any :=
          fun b band => absurd band (notBand b)
        rw [Except.error.injEq]
        exact ⟨fun same => ⟨anyBand, same.symm⟩, fun ⟨_, same⟩ => same.symm⟩
  · rename_i notChannel
    simp only [reduceCtorEq, false_iff, not_exists, not_and]
    intro c found
    exact absurd found (notChannel c)

theorem find?_retainStoredPsk (us : Updates) (setting key : String) :
    (retainStoredPsk us).find? setting key =
      if setting = Setting.wifiSecurity ∧ key = "psk" ∧ dropsBlankPsk us = true then none
      else us.find? setting key := by
  unfold retainStoredPsk
  by_cases drops : dropsBlankPsk us = true
  · simp only [drops, if_true, Updates.find?_erase, and_true]
  · simp [drops]

theorem keyMgmt_of_kept_blank_psk {us : Updates}
    (blank : us.find? Setting.wifiSecurity "psk" = some (.psk ""))
    (kept : dropsBlankPsk us = false) :
    ∃ k, us.find? Setting.wifiSecurity "key-mgmt" = some (.keyMgmt k) ∧ k.requiresPsk = false := by
  unfold dropsBlankPsk at kept
  rw [blank] at kept
  simp only at kept
  split at kept
  · rename_i k found
    exact ⟨k, found, kept⟩
  · cases kept

section Accepted

variable {fields : List (String × List String)} {us : Updates}

/-- The blank PSK is dropped when the last PSK submitted is blank and no key management that
needs none was submitted. -/
theorem dropsBlankPsk_of_accepted (accepted : translateFields fields .empty = .ok us) :
    dropsBlankPsk us = true ↔
      (∃ values, submittedIn fields Setting.wifiSecurity "psk" = some values ∧
          values.getLast?.getD "" = "") ∧
        ∀ values, submittedIn fields Setting.wifiSecurity "key-mgmt" = some values →
          (TextChoice.ofRaw (values.getLast?.getD "") : KeyMgmt).requiresPsk = true := by
  unfold dropsBlankPsk
  rw [find?_psk_of_accepted accepted, find?_keyMgmt_of_accepted accepted]
  cases submittedIn fields Setting.wifiSecurity "psk" with
  | none => simp
  | some values =>
      by_cases blank : values.getLast?.getD "" = ""
      · rw [Option.map_some, blank]
        cases submittedIn fields Setting.wifiSecurity "key-mgmt" <;> simp [blank]
      · simp only [Option.map_some, Option.some.injEq, exists_eq_left', blank, false_and,
          iff_false]
        split
        · rename_i same
          simp only [Option.some.injEq, Update.psk.injEq] at same
          exact absurd same blank
        · simp

theorem contains_of_accepted (accepted : translateFields fields .empty = .ok us)
    (setting key : String) :
    us.contains setting key = true ↔
      (setting, key) ∈ editableKeys ∧ ∃ f ∈ fields, names f.1 setting key = true := by
  have read := find?_of_accepted accepted setting key
  rw [← submittedIn_isSome_iff, Updates.contains]
  cases found : submittedIn fields setting key with
  | none =>
      simp only [found] at read
      simp [read]
  | some values =>
      simp only [found] at read
      simp only [Option.isSome_some, and_true]
      constructor
      · intro present
        refine Classical.byContradiction fun other => ?_
        rw [(parseField_none_iff _ values).mpr other, Except.ok.injEq] at read
        rw [← read] at present
        cases present
      · intro editable
        cases held : us.find? setting key with
        | none =>
            rw [held] at read
            exact absurd editable ((parseField_none_iff _ values).mp read)
        | some _ => rfl

theorem valid_of_accepted (accepted : translateFields fields .empty = .ok us) {u : Update}
    (member : u ∈ us.items) : u.Valid := by
  have read := find?_of_accepted accepted u.key.setting u.key.key
  rw [Updates.find?_of_mem member] at read
  cases found : submittedIn fields u.key.setting u.key.key with
  | none => simp [found] at read
  | some values =>
      simp only [found] at read
      exact (parseField_some read).2

end Accepted

theorem mem_retainStoredPsk {us : Updates} {u : Update} (member : u ∈ (retainStoredPsk us).items) :
    u ∈ us.items := by
  unfold retainStoredPsk at member
  split at member
  · exact (List.mem_filter.mp member).1
  · exact member

theorem translate_eq_ok_iff (form : Form) (us : Updates) :
    form.translate = .ok us ↔
      ∃ fieldUpdates, translateFields form.fields .empty = .ok fieldUpdates ∧
        us = retainStoredPsk fieldUpdates ∧ checkChannelBand us = .ok () := by
  unfold translate
  cases translateFields form.fields .empty with
  | error e => simp [bind, Except.bind]
  | ok fieldUpdates =>
      cases checking : checkChannelBand (retainStoredPsk fieldUpdates) with
      | error e =>
          simp only [bind, Except.bind, checking, reduceCtorEq, Except.ok.injEq, exists_eq_left',
            false_iff, not_and]
          rintro rfl
          simp [checking]
      | ok u =>
          cases u
          simp only [bind, Except.bind, checking, pure, Except.pure, Except.ok.injEq,
            exists_eq_left']
          constructor
          · rintro rfl
            exact ⟨rfl, checking⟩
          · rintro ⟨rfl, -⟩
            rfl

theorem eq_of_key_eq {fields : List (String × List String)} (ordered : KeysOrdered fields)
    {a b : String × List String} (first : a ∈ fields) (second : b ∈ fields) (same : a.1 = b.1) :
    a = b := by
  induction fields with
  | nil => cases first
  | cons f rest ih =>
      simp only [KeysOrdered, List.pairwise_cons] at ordered
      rcases List.mem_cons.mp first with here | first <;>
        rcases List.mem_cons.mp second with there | second
      · exact here.trans there.symm
      · have below := ordered.1 b second
        rw [← here, same] at below
        exact absurd below (String.lt_irrefl _)
      · have below := ordered.1 a first
        rw [← there, ← same] at below
        exact absurd below (String.lt_irrefl _)
      · exact ih ordered.2 first second

theorem failure_eq (channel : Nat) :
    checkChannelBand.failure channel =
      .invalidSetting "802-11-wireless.channel" (toString channel) (.channelWithoutBand channel) :=
  rfl

/-- After accepted fields, the form is refused only for a channel other than 0 submitted without
a band other than "any"; dropping a blank PSK changes neither. -/
theorem checkChannelBand_accepted_eq_error_iff {fields : List (String × List String)}
    {us : Updates} (accepted : translateFields fields .empty = .ok us) (e : Error) :
    checkChannelBand (retainStoredPsk us) = .error e ↔
      ∃ channel : Nat,
        (∃ values, submittedIn fields Setting.wifi "channel" = some values ∧
          IntRange.i64.parse (values.getLast?.getD "") = .ok (channel : Int)) ∧ channel ≠ 0 ∧
        (∀ values, submittedIn fields Setting.wifi "band" = some values →
          values.getLast?.getD "" = "") ∧
        e = .invalidSetting "802-11-wireless.channel" (toString channel)
          (.channelWithoutBand channel) := by
  have kept : ∀ key, (retainStoredPsk us).find? Setting.wifi key = us.find? Setting.wifi key := by
    intro key
    rw [find?_retainStoredPsk]
    simp [Setting.wifi, Setting.wifiSecurity]
  have bands : (∀ b, us.find? Setting.wifi "band" = some (.band b) → b = .any) ↔
      ∀ values, submittedIn fields Setting.wifi "band" = some values →
        values.getLast?.getD "" = "" := by
    rw [find?_band_of_accepted accepted]
    cases submittedIn fields Setting.wifi "band" with
    | none => simp
    | some values => simp [WifiBand.ofRaw_eq_any_iff]
  simp only [checkChannelBand_eq_error_iff, kept, find?_channel_of_accepted accepted, bands,
    failure_eq]

theorem translate_eq_error_iff_of_accepted {form : Form} {us : Updates}
    (accepted : translateFields form.fields .empty = .ok us) (e : Error) :
    form.translate = .error e ↔ checkChannelBand (retainStoredPsk us) = .error e := by
  unfold translate
  cases checking : checkChannelBand (retainStoredPsk us) <;>
    simp [accepted, checking, bind, Except.bind, pure, Except.pure]

/-- The error a form is refused with: that of its field of least key whose rule refuses its
values, or, when no rule refuses its field, that of a channel other than 0 submitted without a
band other than "any". -/
inductive Refusal (form : Form) : Error → Prop
  | field {raw : String} {values : List String} {key : SettingsKey} {cause : Error} :
      (raw, values) ∈ form.fields → SettingsKey.parse raw = .ok key → Rejects key values →
      parseField key values = .error cause →
      (∀ f ∈ form.fields, f.1 < raw → ¬ Refused f) →
      Refusal form (.invalidSetting key.text (shownValue key values) cause)
  | channelWithoutBand {channel : Nat} :
      (∀ f ∈ form.fields, ¬ Refused f) →
      (∃ values, form.submitted Setting.wifi "channel" = some values ∧
        IntRange.i64.parse (values.getLast?.getD "") = .ok (channel : Int)) →
      channel ≠ 0 →
      (∀ values, form.submitted Setting.wifi "band" = some values →
        values.getLast?.getD "" = "") →
      Refusal form (.invalidSetting "802-11-wireless.channel" (toString channel)
        (.channelWithoutBand channel))

/-- A refused field names the error of the first refused field, since no refused field has a
key below it. -/
theorem refusal_of_first {form : Form} {raw : String} {values : List String} {first : Error}
    (member : (raw, values) ∈ form.fields) (failed : fieldOutcome raw values = .failed first)
    (lower : ∀ f ∈ form.fields, f.1 < raw → ¬ Refused f) (e : Error) :
    Refusal form e ↔ first = e := by
  have refused : Refused (raw, values) := refused_iff.mpr ⟨first, failed⟩
  obtain ⟨key, cause, parsed, read, rfl⟩ := fieldOutcome_eq_failed_iff.mp failed
  constructor
  · intro refusal
    cases refusal with
    | field member' parsed' rejects' read' lower' =>
        rename_i raw' values' key' cause'
        -- neither key is below the other, so the two fields are one
        have notBelow : ¬ raw < raw' := fun below => lower' _ member below refused
        have notAbove : ¬ raw' < raw := fun above => lower _ member' above ⟨key', parsed', rejects'⟩
        have same : raw = raw' :=
          String.le_antisymm (String.not_lt.mp notAbove) (String.not_lt.mp notBelow)
        obtain ⟨-, rfl⟩ := Prod.mk.inj (eq_of_key_eq form.ordered member member' same)
        subst same
        rw [parsed, Except.ok.injEq] at parsed'
        subst parsed'
        rw [read, Except.error.injEq] at read'
        subst read'
        rfl
    | channelWithoutBand clean _ _ _ => exact absurd refused (clean _ member)
  · rintro rfl
    exact .field member parsed ((parseField_error_iff key values).mp ⟨cause, read⟩) read lower

theorem translate_eq_error_iff (form : Form) (e : Error) :
    form.translate = .error e ↔ Refusal form e := by
  rcases translateFields_ok_or_error form.fields .empty with ⟨us, accepted⟩ | ⟨first, refused⟩
  · -- every field accepted: only the channel check can refuse
    have clean := (translateFields_ok_iff _ _).mp ⟨us, accepted⟩
    rw [translate_eq_error_iff_of_accepted accepted, checkChannelBand_accepted_eq_error_iff accepted]
    constructor
    · rintro ⟨channel, read, nonzero, bands, rfl⟩
      exact .channelWithoutBand clean read nonzero bands
    · intro refusal
      cases refusal with
      | field member parsed rejects _ _ => exact absurd ⟨_, parsed, rejects⟩ (clean _ member)
      | channelWithoutBand _ read nonzero bands => exact ⟨_, read, nonzero, bands, rfl⟩
  · -- a field refused: the first one in byte order
    have stopped : form.translate = .error first := by
      simp [translate, refused, bind, Except.bind]
    obtain ⟨raw, values, member, failed, lower⟩ :=
      (translateFields_form_eq_error_iff form .empty first).mp refused
    rw [stopped, Except.error.injEq, refusal_of_first member failed lower]

theorem UpdateKind.eq_of_parse_eq_error {selector : String} {e : Error}
    (refused : UpdateKind.parse selector = .error e) : e = .unknownUpdateKind selector := by
  unfold UpdateKind.parse at refused
  dsimp only at refused
  split at refused
  · cases refused
  · split at refused
    · cases refused
    · exact (Except.error.inj refused).symm

/-- A form is refused exactly with its `Refusal`; under a selector that names no kind of update
it is refused for the selector, whatever the form holds. -/
theorem translate_error_iff_refusal (selector : String) (form : Form) (e : Error) :
    (form.translate = .error e ↔ Refusal form e) ∧
      (translateAs selector form = .error e ↔
        ((∀ kind, UpdateKind.parse selector ≠ .ok kind) ∧ e = .unknownUpdateKind selector) ∨
          ((∃ kind, UpdateKind.parse selector = .ok kind) ∧ Refusal form e)) := by
  refine ⟨translate_eq_error_iff form e, ?_⟩
  rw [← translate_eq_error_iff]
  unfold translateAs
  cases parsed : UpdateKind.parse selector with
  | error e' =>
      have named := UpdateKind.eq_of_parse_eq_error parsed
      subst named
      simp [bind, Except.bind, eq_comm]
  | ok kind =>
      cases translated : form.translate <;> simp [bind, Except.bind, pure, Except.pure]

theorem valid_of_translate {form : Form} {us : Updates} (accepted : form.translate = .ok us) :
    ∀ u ∈ us.items, u.Valid := by
  obtain ⟨fieldUpdates, translated, rfl, -⟩ := (translate_eq_ok_iff form us).mp accepted
  exact fun u member => valid_of_accepted translated (mem_retainStoredPsk member)

/-- An accepted form yields updates of editable fields only, each keeping its rule's promise. The
SSID is the bytes of the text submitted, a channel other than 0 goes with a band other than
"any", and a blank PSK with a key management that needs none. The fields updated are those some
key names, less a blank PSK that keeps the stored one. -/
theorem translate_accepted_updates (form : Form) (us : Updates)
    (accepted : form.translate = .ok us) :
    (∀ u ∈ us.items,
      u.key.remainder = none ∧ (u.key.setting, u.key.key) ∈ editableKeys ∧ u.Valid) ∧
    (∀ bytes, us.find? Setting.wifi "ssid" = some (.ssid bytes) →
      ∃ values, form.submitted Setting.wifi "ssid" = some values ∧
        bytes = (values.getLast?.getD "").toUTF8.toList) ∧
    (∀ channel, us.find? Setting.wifi "channel" = some (.channel channel) → channel ≠ 0 →
      ∃ b, us.find? Setting.wifi "band" = some (.band b) ∧ b ≠ .any) ∧
    (us.find? Setting.wifiSecurity "psk" = some (.psk "") →
      ∃ k, us.find? Setting.wifiSecurity "key-mgmt" = some (.keyMgmt k) ∧
        k.requiresPsk = false) ∧
    ∀ setting key, us.contains setting key = true ↔
      ((setting, key) ∈ editableKeys ∧ ∃ f ∈ form.fields, names f.1 setting key = true) ∧
        ¬ (setting = Setting.wifiSecurity ∧ key = "psk" ∧
          (∃ values, form.submitted Setting.wifiSecurity "psk" = some values ∧
            values.getLast?.getD "" = "") ∧
          ∀ values, form.submitted Setting.wifiSecurity "key-mgmt" = some values →
            (TextChoice.ofRaw (values.getLast?.getD "") : KeyMgmt).requiresPsk = true) := by
  obtain ⟨fieldUpdates, translated, rfl, checked⟩ := (translate_eq_ok_iff form us).mp accepted
  -- dropping a blank PSK leaves every other field as the fields made it
  have elsewhere : ∀ setting key, ¬ (setting = Setting.wifiSecurity ∧ key = "psk") →
      (retainStoredPsk fieldUpdates).find? setting key = fieldUpdates.find? setting key := by
    intro setting key other
    rw [find?_retainStoredPsk]
    exact if_neg fun ⟨onSetting, onKey, _⟩ => other ⟨onSetting, onKey⟩
  refine ⟨fun u member => ?_, fun bytes held => ?_, fun channel held nonzero => ?_,
    fun blank => ?_, fun setting key => ?_⟩
  · obtain ⟨remainder, editable⟩ := Update.key_editable u
    exact ⟨remainder, editable, valid_of_translate accepted u member⟩
  · rw [elsewhere _ _ (by simp [Setting.wifi, Setting.wifiSecurity]),
      find?_ssid_of_accepted translated] at held
    obtain ⟨values, found, same⟩ := Option.map_eq_some_iff.mp held
    exact ⟨values, found, (Update.ssid.inj same).symm⟩
  · -- otherwise the channel check would have refused the form
    refine Classical.byContradiction fun noBand => ?_
    have anyBand : ∀ b, (retainStoredPsk fieldUpdates).find? Setting.wifi "band" =
        some (.band b) → b = .any :=
      fun b band => Classical.byContradiction fun other => noBand ⟨b, band, other⟩
    have refused := (checkChannelBand_eq_error_iff _ _).mpr ⟨channel, held, nonzero, anyBand, rfl⟩
    rw [checked] at refused
    cases refused
  · have kept : dropsBlankPsk fieldUpdates = false := by
      cases drops : dropsBlankPsk fieldUpdates
      · rfl
      · simp [find?_retainStoredPsk, drops] at blank
    rw [find?_retainStoredPsk, if_neg (by simp [kept])] at blank
    rw [elsewhere _ _ (by simp)]
    exact keyMgmt_of_kept_blank_psk blank kept
  · simp only [submitted, ← dropsBlankPsk_of_accepted translated,
      ← contains_of_accepted translated, Updates.contains, find?_retainStoredPsk]
    by_cases psk : setting = Setting.wifiSecurity ∧ key = "psk" ∧ dropsBlankPsk fieldUpdates = true <;>
      simp [psk]

/-- A band with a channel, and a blank PSK beside a key management that needs none. -/
theorem blank_psk_kept_beside_owe :
    let form := Form.ofPairs [("802-11-wireless.band", "a"), ("802-11-wireless.channel", "36"),
      ("802-11-wireless-security.psk", ""), ("802-11-wireless-security.key-mgmt", "owe")]
    let us := (((Updates.empty.insert (.psk "")).insert (.keyMgmt .owe)).insert (.band .a)).insert
      (.channel 36)
    form.translate = .ok us ∧
      (us.find? Setting.wifiSecurity "psk" = some (.psk "") →
        ∃ k, us.find? Setting.wifiSecurity "key-mgmt" = some (.keyMgmt k) ∧
          k.requiresPsk = false) := by
  intro form us
  have accepted : form.translate = .ok us := rfl
  exact ⟨accepted, (translate_accepted_updates form us accepted).2.2.2.1⟩

end Form

end NetConsole
