import NetConsole.Settings.Merge
import NetConsole.Proofs.UpdateSet

/-! The exact effect of merging updates, with raw settings read as a map of maps. Writing an
update changes the value at its own key only, so updates with distinct keys can be written in
any order. -/

namespace NetConsole

open NetConsole.Bus (Value)

namespace Table

variable {α : Type}

theorem get?_insert (name other : String) (a : α) (t : Table α) :
    get? (insert name a t) other = if other = name then some a else get? t other := by
  by_cases same : other = name
  · subst same
    simp
  · simp [same, get?_insert_of_ne same]

theorem get?_erase (name other : String) (t : Table α) :
    get? (erase name t) other = if other = name then none else get? t other := by
  by_cases same : other = name
  · subst same
    simp
  · simp [same, get?_erase_of_ne same]

theorem get?_filter_names (names : List String) (t : Table α) (name : String) :
    get? (t.filter fun e => !names.contains e.1) name =
      if name ∈ names then none else get? t name := by
  induction t with
  | nil => simp
  | cons e rest ih =>
      obtain ⟨n, b⟩ := e
      by_cases here : name = n
      · subst here
        by_cases listed : name ∈ names <;> simp_all [get?_cons]
      · have skip : (name == n) = false := beq_eq_false_iff_ne.mpr here
        by_cases listed : n ∈ names <;> simp_all [get?_cons]

theorem get?_modify (name other : String) (f : α → α) (t : Table α) :
    get? (modify name f t) other = if other = name then (get? t other).map f else get? t other := by
  induction t with
  | nil => simp [modify]
  | cons e rest ih =>
      obtain ⟨n, b⟩ := e
      by_cases here : other = n
      · subst here
        by_cases same : other = name <;> simp [modify, same, get?_cons]
      · have skip : (other == n) = false := beq_eq_false_iff_ne.mpr here
        by_cases same : n = name
        · subst same
          simp [modify, get?_cons, skip, ih, here]
        · simp [modify, same, get?_cons, skip, ih]

theorem get?_map {β : Type} (f : String → α → β) (t : Table α) (name : String) :
    get? (t.map fun e => (e.1, f e.1 e.2)) name = (get? t name).map (f name) := by
  induction t with
  | nil => rfl
  | cons e rest ih =>
      obtain ⟨n, b⟩ := e
      by_cases here : name = n
      · subst here
        simp [get?_cons]
      · have skip : (name == n) = false := beq_eq_false_iff_ne.mpr here
        simp [get?_cons, skip, ih]

end Table

namespace Update

def clearsBand : Update → Bool
  | .band b => (TextChoice.raw b).isEmpty
  | _ => false

def written (u : Update) : Option Value := if u.clearsBand then none else some u.toValue

theorem eq_band_of_clearsBand {u : Update} (clears : u.clearsBand = true) :
    ∃ b, u = .band b ∧ (TextChoice.raw b).isEmpty = true := by
  cases u <;> simp_all [clearsBand]

theorem key_of_clearsBand {u : Update} (clears : u.clearsBand = true) :
    u.key = ⟨Setting.wifi, "band", none⟩ := by
  obtain ⟨b, rfl, -⟩ := eq_band_of_clearsBand clears
  rfl

theorem eq_keyMgmt_of_key {u : Update} (setting : u.key.setting = Setting.wifiSecurity)
    (key : u.key.key = "key-mgmt") : ∃ k, u = .keyMgmt k := by
  cases u <;> simp_all [Update.key, Setting.connection, Setting.wifi, Setting.wifiSecurity]

end Update

namespace RawSettings

def valueAt (raw : RawSettings) (setting key : String) : Option Value :=
  (raw.get? setting).bind (·.get? key)

def view (raw : RawSettings) (setting : String) : Option (String → Option Value) :=
  (raw.get? setting).map fun s key => s.get? key

theorem view_eq_of_valueAt {a b : RawSettings}
    (settings : ∀ setting, (a.get? setting).isSome = (b.get? setting).isSome)
    (values : ∀ setting key, a.valueAt setting key = b.valueAt setting key) : a.view = b.view := by
  funext setting
  have present := settings setting
  cases here : a.get? setting <;> cases there : b.get? setting <;>
    simp_all only [view, Option.isSome_none, Option.isSome_some, Option.map_none, Option.map_some,
      Bool.false_eq_true, Bool.true_eq_false]
  rename_i s t
  congr 1
  funext key
  simpa [valueAt, here, there] using values setting key

theorem get?_applyUpdate (raw : RawSettings) (u : Update) (setting : String) :
    (applyUpdate raw u).get? setting =
      if setting = u.key.setting then
        if u.clearsBand then (raw.get? setting).map (Table.erase "band")
        else some (Table.insert u.key.key u.toValue ((raw.get? setting).getD []))
      else raw.get? setting := by
  by_cases here : setting = u.key.setting
  · subst here
    cases u with
    | band b =>
        by_cases clears : (TextChoice.raw b).isEmpty = true <;>
          simp [applyUpdate, Update.clearsBand, Update.key, clears, Table.get?_modify]
    | _ => simp [applyUpdate, Update.clearsBand]
  · cases u with
    | band b =>
        have other : setting ≠ Setting.wifi := here
        by_cases clears : (TextChoice.raw b).isEmpty = true <;>
          simp [applyUpdate, Update.key, clears, other, Table.get?_insert, Table.get?_modify]
    | _ => simp [applyUpdate, here, Table.get?_insert]

theorem get?_applyUpdate_written (raw : RawSettings) (u : Update) (keeps : u.clearsBand = false) :
    (applyUpdate raw u).get? u.key.setting =
      some (Table.insert u.key.key u.toValue ((raw.get? u.key.setting).getD [])) := by
  rw [get?_applyUpdate, if_pos rfl, if_neg (by simp [keeps])]

theorem valueAt_applyUpdate (raw : RawSettings) (u : Update) (setting key : String) :
    (applyUpdate raw u).valueAt setting key =
      if u.key.setting = setting ∧ u.key.key = key then u.written else raw.valueAt setting key := by
  simp only [valueAt, get?_applyUpdate]
  by_cases here : setting = u.key.setting
  · subst here
    by_cases clears : u.clearsBand = true
    · have band := Update.key_of_clearsBand clears
      cases raw.get? u.key.setting <;> simp [clears, Update.written, Table.get?_erase, band, eq_comm]
    · cases raw.get? u.key.setting <;> simp [clears, Update.written, Table.get?_insert, eq_comm]
  · have there : ¬ (u.key.setting = setting ∧ u.key.key = key) := fun same => here same.1.symm
    simp [here, there]

theorem hasSetting_applyUpdate (raw : RawSettings) (u : Update) (setting : String) :
    ((applyUpdate raw u).get? setting).isSome =
      ((raw.get? setting).isSome || (u.key.setting == setting && !u.clearsBand)) := by
  rw [get?_applyUpdate]
  by_cases here : setting = u.key.setting
  · subst here
    by_cases clears : u.clearsBand = true <;> simp [clears]
  · have there : (u.key.setting == setting) = false := beq_eq_false_iff_ne.mpr fun e => here e.symm
    simp [here, there]

theorem valueAt_foldl_applyUpdate {l : List Update} (distinct : DistinctKeys l) (raw : RawSettings)
    (setting key : String) :
    (l.foldl applyUpdate raw).valueAt setting key =
      match l.find? (writesAt setting key) with
      | some u => u.written
      | none => raw.valueAt setting key := by
  induction l generalizing raw with
  | nil => rfl
  | cons u rest ih =>
      simp only [DistinctKeys, List.pairwise_cons] at distinct
      rw [List.foldl_cons, ih distinct.2, List.find?_cons]
      by_cases writes : u.key.setting = setting ∧ u.key.key = key
      · -- the key is written by `u` alone
        have alone : rest.find? (writesAt setting key) = none := by
          apply List.find?_eq_none.mpr
          intro v member same
          simp only [writesAt, Bool.and_eq_true, beq_iff_eq] at same
          exact distinct.1 v member ⟨writes.1.trans same.1.symm, writes.2.trans same.2.symm⟩
        have hit : writesAt setting key u = true := by simp [writesAt, writes]
        simp [alone, hit, valueAt_applyUpdate, writes]
      · have skip : writesAt setting key u = false := by
          simpa [writesAt] using writes
        cases rest.find? (writesAt setting key) <;> simp [skip, valueAt_applyUpdate, writes]

theorem hasSetting_foldl_applyUpdate (l : List Update) (raw : RawSettings) (setting : String) :
    ((l.foldl applyUpdate raw).get? setting).isSome = true ↔
      (raw.get? setting).isSome = true ∨ ∃ u ∈ l, u.key.setting = setting ∧ u.clearsBand = false := by
  induction l generalizing raw with
  | nil => simp
  | cons u rest ih =>
      rw [List.foldl_cons, ih, hasSetting_applyUpdate]
      simp only [Bool.or_eq_true, Bool.and_eq_true, beq_iff_eq, Bool.not_eq_true', List.mem_cons,
        exists_eq_or_imp]
      constructor
      · rintro ((present | written) | later)
        · exact .inl present
        · exact .inr (.inl written)
        · exact .inr (.inr later)
      · rintro (present | written | later)
        · exact .inl (.inl present)
        · exact .inl (.inr written)
        · exact .inr later

theorem get?_stripLegacy (raw : RawSettings) (setting : String) :
    (stripLegacy raw).get? setting =
      (raw.get? setting).map fun s =>
        if setting = Setting.ipv4 ∨ setting = Setting.ipv6 then
          s.filter fun e => !legacyKeys.contains e.1
        else s := by
  have strip : stripLegacy raw = raw.map fun e => (e.1,
      if e.1 = Setting.ipv4 ∨ e.1 = Setting.ipv6 then e.2.filter fun e => !legacyKeys.contains e.1
      else e.2) := by
    apply List.map_congr_left
    intro e _
    by_cases ip : e.1 = Setting.ipv4 ∨ e.1 = Setting.ipv6 <;> simp [ip]
  rw [strip]
  exact Table.get?_map (fun n (s : RawSection) =>
    if n = Setting.ipv4 ∨ n = Setting.ipv6 then s.filter fun e => !legacyKeys.contains e.1 else s)
    raw setting

theorem valueAt_stripLegacy (raw : RawSettings) (setting key : String) :
    (stripLegacy raw).valueAt setting key =
      if (setting = Setting.ipv4 ∨ setting = Setting.ipv6) ∧ key ∈ legacyKeys then none
      else raw.valueAt setting key := by
  simp only [valueAt, get?_stripLegacy]
  cases raw.get? setting with
  | none => simp
  | some s =>
      by_cases ip : setting = Setting.ipv4 ∨ setting = Setting.ipv6
      · simp only [Option.map_some, Option.bind_some, if_pos ip, Table.get?_filter_names]
        simp [ip]
      · simp [ip]

theorem hasSetting_stripLegacy (raw : RawSettings) (setting : String) :
    ((stripLegacy raw).get? setting).isSome = (raw.get? setting).isSome := by
  rw [get?_stripLegacy, Option.isSome_map]

theorem valueAt_erase (raw : RawSettings) (name setting key : String) :
    valueAt (Table.erase name raw) setting key =
      if setting = name then none else raw.valueAt setting key := by
  by_cases here : setting = name <;> simp [valueAt, Table.get?_erase, here]

theorem resolvesToOpen_of_valueAt {a b : RawSettings}
    (same : a.valueAt Setting.wifiSecurity "key-mgmt" = b.valueAt Setting.wifiSecurity "key-mgmt")
    (us : Updates) : resolvesToOpen a us = resolvesToOpen b us := by
  simp only [valueAt] at same
  simp only [resolvesToOpen, same]

/-- The key management in effect is open: the submitted one is blank, or none is submitted and the
stored one is the empty text. -/
theorem resolvesToOpen_iff (raw : RawSettings) (us : Updates) :
    resolvesToOpen raw us = true ↔
      (∃ k, us.find? Setting.wifiSecurity "key-mgmt" = some (.keyMgmt k) ∧ TextChoice.raw k = "") ∨
        us.find? Setting.wifiSecurity "key-mgmt" = none ∧
          raw.valueAt Setting.wifiSecurity "key-mgmt" = some (.string "") := by
  cases found : us.find? Setting.wifiSecurity "key-mgmt" with
  | some u =>
      -- the update found at the key management can only be a key management update
      have writes := Updates.find?_writes found
      obtain ⟨k, rfl⟩ := Update.eq_keyMgmt_of_key writes.1 writes.2
      simp [resolvesToOpen, found, String.isEmpty_iff]
  | none =>
      simp only [resolvesToOpen, found, valueAt]
      split <;> simp_all [String.isEmpty_iff]

theorem Update.ne_ip (u : Update) : u.key.setting ≠ Setting.ipv4 ∧ u.key.setting ≠ Setting.ipv6 := by
  cases u <;> simp [Update.key, Setting.connection, Setting.wifi, Setting.wifiSecurity, Setting.ipv4,
    Setting.ipv6]

/-- The written settings decide the open network as the settings before the merge do: a key
management update is read the same, and without one the stored value is untouched. -/
theorem resolvesToOpen_written {us : Updates} {order : List Update} (perm : order.Perm us.items)
    (raw : RawSettings) :
    resolvesToOpen (order.foldl applyUpdate (stripLegacy raw)) us = resolvesToOpen raw us := by
  cases found : us.find? Setting.wifiSecurity "key-mgmt" with
  | some u =>
      have writes := Updates.find?_writes found
      obtain ⟨k, rfl⟩ := Update.eq_keyMgmt_of_key writes.1 writes.2
      simp only [resolvesToOpen, found]
  | none =>
      apply resolvesToOpen_of_valueAt
      have distinct := us.distinctKeys.perm perm.symm
      rw [valueAt_foldl_applyUpdate distinct, find?_eq_of_perm perm distinct, ← Updates.find?_eq,
        found, valueAt_stripLegacy]
      simp [Setting.wifiSecurity, Setting.ipv4, Setting.ipv6]

def mergeVisiting (raw : RawSettings) (us : Updates) (order : List Update) : RawSettings :=
  let written := order.foldl applyUpdate (stripLegacy raw)
  if resolvesToOpen written us then Table.erase Setting.wifiSecurity written else written

theorem merge_eq_mergeVisiting (raw : RawSettings) (us : Updates) :
    merge raw us = mergeVisiting raw us us.items := rfl

theorem valueAt_mergeVisiting {us : Updates} {order : List Update} (perm : order.Perm us.items)
    (raw : RawSettings) (setting key : String) :
    (mergeVisiting raw us order).valueAt setting key =
      if setting = Setting.wifiSecurity ∧ resolvesToOpen raw us = true then none
      else match us.find? setting key with
        | some u => u.written
        | none => (stripLegacy raw).valueAt setting key := by
  have distinct := us.distinctKeys.perm perm.symm
  have written := valueAt_foldl_applyUpdate distinct (stripLegacy raw) setting key
  rw [find?_eq_of_perm perm distinct, ← Updates.find?_eq] at written
  simp only [mergeVisiting, resolvesToOpen_written perm]
  by_cases opens : resolvesToOpen raw us = true
  · by_cases security : setting = Setting.wifiSecurity
    · simp [opens, security, valueAt_erase]
    · simp [opens, security, valueAt_erase, written]
  · simp [opens, written]

theorem hasSetting_mergeVisiting {us : Updates} {order : List Update} (perm : order.Perm us.items)
    (raw : RawSettings) (setting : String) :
    ((mergeVisiting raw us order).get? setting).isSome = true ↔
      ((raw.get? setting).isSome = true ∨
          ∃ u ∈ us.items, u.key.setting = setting ∧ u.clearsBand = false) ∧
        ¬ (setting = Setting.wifiSecurity ∧ resolvesToOpen raw us = true) := by
  have written := hasSetting_foldl_applyUpdate order (stripLegacy raw) setting
  simp only [hasSetting_stripLegacy, perm.mem_iff] at written
  simp only [mergeVisiting, resolvesToOpen_written perm]
  by_cases opens : resolvesToOpen raw us = true
  · by_cases security : setting = Setting.wifiSecurity
    · simp [opens, security]
    · simp [opens, security, Table.get?_erase, written]
  · simp [opens, written]

/-- The merged settings key by key: the security section of an open network is gone, and so are
the legacy address and route keys and the band that means any band; every other key an update
names holds that update's value, and every key no update names keeps its value. A setting is
present when it was before or an update other than the any band names it, unless it is the
removed security section. Written in any order, the updates give the same map. -/
theorem raw_settings_after_merge (raw : RawSettings) (us : Updates) :
    (∀ setting key, (merge raw us).valueAt setting key =
      if setting = Setting.wifiSecurity ∧ resolvesToOpen raw us = true then none
      else if (setting = Setting.ipv4 ∨ setting = Setting.ipv6) ∧
          (key = "addresses" ∨ key = "routes") then none
      else if setting = Setting.wifi ∧ key = "band" ∧
          (us.find? Setting.wifi "band").any Update.clearsBand = true then none
      else match us.find? setting key with
        | some u => some u.toValue
        | none => raw.valueAt setting key) ∧
    (∀ setting, ((merge raw us).get? setting).isSome = true ↔
      ((raw.get? setting).isSome = true ∨
          ∃ u ∈ us.items, u.key.setting = setting ∧ u.clearsBand = false) ∧
        ¬ (setting = Setting.wifiSecurity ∧ resolvesToOpen raw us = true)) ∧
    ∀ order, order.Perm us.items → (mergeVisiting raw us order).view = (merge raw us).view := by
  refine ⟨fun setting key => ?_, hasSetting_mergeVisiting (List.Perm.refl _) raw,
    fun order perm => ?_⟩
  · rw [merge_eq_mergeVisiting, valueAt_mergeVisiting (List.Perm.refl _), valueAt_stripLegacy]
    by_cases removed : setting = Setting.wifiSecurity ∧ resolvesToOpen raw us = true
    · simp [removed]
    rw [if_neg removed, if_neg removed]
    by_cases legacy : (setting = Setting.ipv4 ∨ setting = Setting.ipv6) ∧
        (key = "addresses" ∨ key = "routes")
    · -- no update writes an IP setting
      have unwritten : us.find? setting key = none := by
        apply List.find?_eq_none.mpr
        intro u _ writes
        simp only [Bool.and_eq_true, beq_iff_eq] at writes
        rcases legacy.1 with ip | ip
        · exact (Update.ne_ip u).1 (writes.1.trans ip)
        · exact (Update.ne_ip u).2 (writes.1.trans ip)
      simp [unwritten, legacy, legacyKeys]
    rw [if_neg legacy]
    by_cases cleared : setting = Setting.wifi ∧ key = "band" ∧
        (us.find? Setting.wifi "band").any Update.clearsBand = true
    · obtain ⟨rfl, rfl, clears⟩ := cleared
      obtain ⟨u, found, clears⟩ := (Option.any_eq_true _ _).mp clears
      simp [found, Update.written, clears]
    rw [if_neg cleared]
    cases found : us.find? setting key with
    | none =>
        have kept : ¬ ((setting = Setting.ipv4 ∨ setting = Setting.ipv6) ∧ key ∈ legacyKeys) := by
          simpa [legacyKeys] using legacy
        simp [kept]
    | some u =>
        -- the any band would have been the cleared key
        have keeps : u.clearsBand = false := by
          cases clears : u.clearsBand
          · rfl
          · have writes := Updates.find?_writes found
            simp only [Update.key_of_clearsBand clears] at writes
            obtain ⟨rfl, rfl⟩ := And.intro writes.1.symm writes.2.symm
            exact absurd ⟨rfl, rfl, (Option.any_eq_true _ _).mpr ⟨u, found, clears⟩⟩ cleared
        simp [Update.written, keeps]
  · apply view_eq_of_valueAt
    · intro setting
      apply Bool.eq_iff_iff.mpr
      rw [hasSetting_mergeVisiting perm, merge_eq_mergeVisiting,
        hasSetting_mergeVisiting (List.Perm.refl _)]
    · intro setting key
      rw [merge_eq_mergeVisiting, valueAt_mergeVisiting perm, valueAt_mergeVisiting (List.Perm.refl _)]

/-- A Wi-Fi and a connection update written against key order merge to the same map. -/
theorem merge_view_against_key_order :
    let us := (Updates.empty.insert (.autoconnect false)).insert (.hidden true)
    [Update.autoconnect false, .hidden true].Perm us.items ∧
      (mergeVisiting [] us [.autoconnect false, .hidden true]).view = (merge [] us).view := by
  intro us
  have perm : [Update.autoconnect false, .hidden true].Perm us.items :=
    (show us.items = [.hidden true, .autoconnect false] from rfl) ▸ List.Perm.swap _ _ []
  exact ⟨perm, (raw_settings_after_merge [] us).2.2 _ perm⟩

end RawSettings

end NetConsole
