import NetConsole.Proofs.Translation

/-! Which submitted values a translation reads: the last one of a field, or for a set those that
are not blank, under the greatest key naming the field. -/

namespace NetConsole

namespace Form

def replaceValues (raw : String) (values : List String) (fields : List (String × List String)) :
    List (String × List String) :=
  fields.map fun f => (f.1, if f.1 = raw then values else f.2)

theorem replaceValues_ordered (raw : String) (values : List String)
    {fields : List (String × List String)} (ordered : KeysOrdered fields) :
    KeysOrdered (replaceValues raw values fields) := by
  unfold KeysOrdered replaceValues
  rw [List.pairwise_map]
  exact ordered

theorem replaceValues_cons (raw : String) (values : List String) (f : String × List String)
    (rest : List (String × List String)) :
    replaceValues raw values (f :: rest) =
      (f.1, if f.1 = raw then values else f.2) :: replaceValues raw values rest := rfl

def setValues (form : Form) (raw : String) (values : List String) : Form :=
  ⟨replaceValues raw values form.fields, replaceValues_ordered raw values form.ordered⟩

theorem getAll_of_mem {form : Form} {raw : String} {values : List String}
    (member : (raw, values) ∈ form.fields) : form.getAll raw = values := by
  unfold getAll
  obtain ⟨fields, ordered⟩ := form
  dsimp only at member ⊢
  induction fields with
  | nil => cases member
  | cons f rest ih =>
      simp only [KeysOrdered, List.pairwise_cons] at ordered
      rw [List.lookup_cons]
      rcases List.mem_cons.mp member with rfl | later
      · simp
      · have below : f.1 < raw := ordered.1 _ later
        have differ : (raw == f.1) = false := beq_eq_false_iff_ne.mpr fun same =>
          String.lt_irrefl _ (same ▸ below)
        rw [differ]
        exact ih ordered.2 later

theorem choiceSet_congr {α : Type} [TextChoice α] {values values' : List String}
    (same : values'.filter (· != "") = values.filter (· != "")) :
    (choiceSet values' : Except Error (ChoiceSet α)) = choiceSet values := by
  unfold choiceSet
  rw [same]

theorem parseField_congr_last {key : SettingsKey} {values values' : List String}
    (single : isMultiValued key = false) (same : values'.getLast? = values.getLast?) :
    parseField key values' = parseField key values := by
  obtain ⟨setting, name, remainder⟩ := key
  by_cases editable : (setting, name) ∈ editableKeys
  · simp only [editableKeys, List.mem_cons, Prod.mk.injEq, List.not_mem_nil, or_false] at editable
    rcases editable with ⟨rfl, rfl⟩ | ⟨rfl, rfl⟩ | ⟨rfl, rfl⟩ | ⟨rfl, rfl⟩ | ⟨rfl, rfl⟩ | ⟨rfl, rfl⟩ |
      ⟨rfl, rfl⟩ | ⟨rfl, rfl⟩ | ⟨rfl, rfl⟩ | ⟨rfl, rfl⟩ | ⟨rfl, rfl⟩ | ⟨rfl, rfl⟩
    · simp only [parseField_autoconnect, same]
    · simp only [parseField_autoconnectPriority, same]
    · simp only [parseField_band, same]
    · simp only [parseField_channel, same]
    · simp only [parseField_hidden, same]
    · simp only [parseField_mode, same]
    · simp only [parseField_ssid, same]
    · simp [isMultiValued, Setting.wifiSecurity] at single
    · simp only [parseField_keyMgmt, same]
    · simp [isMultiValued, Setting.wifiSecurity] at single
    · simp [isMultiValued, Setting.wifiSecurity] at single
    · simp only [parseField_psk, same]
  · rw [parseField_of_not_editable values' editable, parseField_of_not_editable values editable]

theorem parseField_congr_nonblank {key : SettingsKey} {values values' : List String}
    (multi : isMultiValued key = true)
    (same : values'.filter (· != "") = values.filter (· != "")) :
    parseField key values' = parseField key values := by
  obtain ⟨setting, name, remainder⟩ := key
  simp only [isMultiValued, Bool.and_eq_true, beq_iff_eq, Bool.or_eq_true] at multi
  obtain ⟨rfl, (rfl | rfl) | rfl⟩ := multi
  · rw [parseField_group, parseField_group, choiceSet_congr same]
  · rw [parseField_pairwise, parseField_pairwise, choiceSet_congr same]
  · rw [parseField_proto, parseField_proto, choiceSet_congr same]

/-- Two value lists a field reads alike: the same last value, or for a set the same values that
are not blank. -/
def ReadAlike (key : SettingsKey) (values values' : List String) : Prop :=
  if isMultiValued key then values'.filter (· != "") = values.filter (· != "")
  else values'.getLast? = values.getLast?

theorem parseField_congr {key : SettingsKey} {values values' : List String}
    (alike : ReadAlike key values values') : parseField key values' = parseField key values := by
  unfold ReadAlike at alike
  cases multi : isMultiValued key
  · simp only [multi, Bool.false_eq_true, if_false] at alike
    exact parseField_congr_last multi alike
  · simp only [multi, if_true] at alike
    exact parseField_congr_nonblank multi alike

theorem shownValue_congr {key : SettingsKey} {values values' : List String}
    (alike : ReadAlike key values values') : shownValue key values' = shownValue key values := by
  unfold ReadAlike at alike
  unfold shownValue
  cases multi : isMultiValued key
  · simp only [multi, Bool.false_eq_true, if_false] at alike ⊢
    rw [alike]
  · simp only [multi, if_true] at alike ⊢
    rw [alike]

theorem fieldOutcome_congr {raw : String} {values values' : List String}
    (alike : ∀ key, SettingsKey.parse raw = .ok key → ReadAlike key values values') :
    fieldOutcome raw values' = fieldOutcome raw values := by
  unfold fieldOutcome
  cases parsed : SettingsKey.parse raw with
  | error _ => rfl
  | ok key =>
      dsimp only
      rw [parseField_congr (alike key parsed), shownValue_congr (alike key parsed)]

theorem translateFields_cons_congr {raw : String} {values values' : List String}
    {rest rest' : List (String × List String)}
    (head : fieldOutcome raw values' = fieldOutcome raw values)
    (tail : ∀ us, translateFields rest' us = translateFields rest us) (us : Updates) :
    translateFields ((raw, values') :: rest') us = translateFields ((raw, values) :: rest) us := by
  simp only [translateFields, head]
  split <;> simp only [tail]

/-- Replacing the values under one key by values whose field comes to the same outcome changes
no step of the translation. The induction runs over the fields, with the updates so far
generalised. -/
theorem translateFields_replaceValues {raw : String} {values : List String}
    {fields : List (String × List String)}
    (alike : ∀ f ∈ fields, f.1 = raw → fieldOutcome raw values = fieldOutcome f.1 f.2)
    (us : Updates) :
    translateFields (replaceValues raw values fields) us = translateFields fields us := by
  induction fields generalizing us with
  | nil => rfl
  | cons f rest ih =>
      obtain ⟨key, old⟩ := f
      have head : fieldOutcome key (if key = raw then values else old) = fieldOutcome key old := by
        by_cases same : key = raw
        · subst same
          rw [if_pos rfl]
          exact alike (key, old) List.mem_cons_self rfl
        · rw [if_neg same]
      rw [replaceValues_cons]
      exact translateFields_cons_congr head
        (ih fun f member => alike f (List.mem_cons_of_mem _ member)) us

theorem translate_of_fields {form form' : Form}
    (same : translateFields form'.fields .empty = translateFields form.fields .empty) :
    form'.translate = form.translate := by
  unfold translate
  rw [same]

/-- A form whose values under one key are replaced by values read alike translates as before,
whether it is accepted or refused. -/
theorem translate_setValues (form : Form) (raw : String) (values : List String)
    (alike : ∀ key, SettingsKey.parse raw = .ok key → ReadAlike key (form.getAll raw) values) :
    (form.setValues raw values).translate = form.translate := by
  apply translate_of_fields
  apply translateFields_replaceValues
  rintro ⟨key, old⟩ member (rfl : key = raw)
  rw [getAll_of_mem member] at alike
  exact fieldOutcome_congr alike

theorem submittedIn_greatest {fields : List (String × List String)} (ordered : KeysOrdered fields)
    {setting key : String} {values : List String}
    (submitted : submittedIn fields setting key = some values) :
    ∃ greatest, (greatest, values) ∈ fields ∧ names greatest setting key = true ∧
      ∀ f ∈ fields, names f.1 setting key = true → f.1 ≤ greatest := by
  unfold submittedIn at submitted
  obtain ⟨⟨greatest, values'⟩, last, rfl⟩ := Option.map_eq_some_iff.mp submitted
  obtain ⟨before, split⟩ := List.getLast?_eq_some_iff.mp last
  have naming := ordered.filter fun f => names f.1 setting key
  have member : (greatest, values') ∈ fields.filter fun f => names f.1 setting key := by
    rw [split]
    exact List.mem_append_right _ List.mem_cons_self
  refine ⟨greatest, (List.mem_filter.mp member).1, by simpa using (List.mem_filter.mp member).2,
    fun f present named => ?_⟩
  have kept : f ∈ fields.filter fun f => names f.1 setting key :=
    List.mem_filter.mpr ⟨present, by simpa using named⟩
  rw [split] at kept naming
  rcases List.mem_append.mp kept with earlier | last
  · -- a key kept before the last one is below it
    simp only [List.pairwise_append, List.mem_singleton] at naming
    exact String.not_lt.mp (String.lt_asymm (naming.2.2 f earlier _ rfl))
  · obtain rfl := List.mem_singleton.mp last
    exact String.le_refl _

/-- An update of an accepted form is the one its rule makes of the values of the greatest key
naming the field. -/
theorem find?_of_translate {form : Form} {us : Updates} (accepted : form.translate = .ok us)
    {setting key : String} {u : Update} (found : us.find? setting key = some u) :
    ∃ greatest values, (greatest, values) ∈ form.fields ∧ names greatest setting key = true ∧
      (∀ f ∈ form.fields, names f.1 setting key = true → f.1 ≤ greatest) ∧
      ∃ k, SettingsKey.parse greatest = .ok k ∧ parseField k values = .ok (some u) := by
  obtain ⟨fieldUpdates, translated, rfl, -⟩ := (translate_eq_ok_iff form _).mp accepted
  -- dropping a blank PSK adds no update
  have kept : fieldUpdates.find? setting key = some u := by
    rw [find?_retainStoredPsk] at found
    split at found
    · cases found
    · exact found
  have read := find?_of_accepted translated setting key
  cases submitted : submittedIn form.fields setting key with
  | none =>
      rw [submitted, kept] at read
      cases read
  | some values =>
      rw [submitted, kept] at read
      obtain ⟨greatest, member, named, top⟩ := submittedIn_greatest form.ordered submitted
      obtain ⟨remainder, parsed⟩ := names_iff.mp named
      exact ⟨greatest, values, member, named, top, _, parsed,
        (parseField_remainder _ _ remainder values).trans read⟩

/-- Translation reads the last value of a field, or for a set its values that are not blank:
replacing the values under a key by others that agree there changes neither the updates of the
form nor its refusal. Of the keys naming a field, the greatest in byte order gives its update. -/
theorem translation_reads_last_values (form : Form) (raw : String) (key : SettingsKey)
    (parsed : SettingsKey.parse raw = .ok key) (values : List String) :
    (isMultiValued key = false → values.getLast? = (form.getAll raw).getLast? →
      (form.setValues raw values).translate = form.translate) ∧
    (isMultiValued key = true →
      values.filter (· != "") = (form.getAll raw).filter (· != "") →
      (form.setValues raw values).translate = form.translate) ∧
    (∀ us u, form.translate = .ok us → us.find? key.setting key.key = some u →
      ∃ greatest values', (greatest, values') ∈ form.fields ∧
        names greatest key.setting key.key = true ∧
        (∀ f ∈ form.fields, names f.1 key.setting key.key = true → f.1 ≤ greatest) ∧
        ∃ k, SettingsKey.parse greatest = .ok k ∧ parseField k values' = .ok (some u)) := by
  -- the key of `raw` is the only one it parses to
  have only : ∀ k, SettingsKey.parse raw = .ok k → k = key := by
    intro k same
    rw [parsed, Except.ok.injEq] at same
    exact same.symm
  refine ⟨fun single same => ?_, fun multi same => ?_, fun us u accepted found => ?_⟩
  · refine translate_setValues form raw values fun k kParsed => ?_
    rw [only k kParsed, ReadAlike, single]
    exact same
  · refine translate_setValues form raw values fun k kParsed => ?_
    rw [only k kParsed, ReadAlike, multi]
    exact same
  · exact find?_of_translate accepted found

/-- A confirmation key such as `psk.confirm` names the PSK too, and being greater in byte order,
its value is the one written. -/
theorem psk_confirm_overrides_psk :
    let form := Form.ofPairs [("802-11-wireless-security.psk", "first"),
      ("802-11-wireless-security.psk.confirm", "second")]
    let us := Updates.empty.insert (.psk "second")
    SettingsKey.parse "802-11-wireless-security.psk" =
        .ok ⟨Setting.wifiSecurity, "psk", none⟩ ∧
      form.translate = .ok us ∧ us.find? Setting.wifiSecurity "psk" = some (.psk "second") ∧
      ∃ greatest values', (greatest, values') ∈ form.fields ∧
        names greatest Setting.wifiSecurity "psk" = true ∧
        (∀ f ∈ form.fields, names f.1 Setting.wifiSecurity "psk" = true → f.1 ≤ greatest) ∧
        ∃ k, SettingsKey.parse greatest = .ok k ∧ parseField k values' = .ok (some (.psk "second")) := by
  intro form us
  have parsed : SettingsKey.parse "802-11-wireless-security.psk" =
      .ok ⟨Setting.wifiSecurity, "psk", none⟩ := rfl
  have accepted : form.translate = .ok us := rfl
  have found : us.find? Setting.wifiSecurity "psk" = some (.psk "second") := rfl
  exact ⟨parsed, accepted, found, (translation_reads_last_values form
    "802-11-wireless-security.psk" ⟨Setting.wifiSecurity, "psk", none⟩ parsed []).2.2 us
    (.psk "second") accepted found⟩

end Form

end NetConsole
