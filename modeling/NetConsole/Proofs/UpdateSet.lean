import NetConsole.Settings.Update

/-! Looking up an update set by setting and key: its updates have distinct keys, so the one found
is the one member with them, in whatever order the members are listed. -/

namespace NetConsole

def DistinctKeys (l : List Update) : Prop :=
  l.Pairwise fun a b => ¬ (a.key.setting = b.key.setting ∧ a.key.key = b.key.key)

theorem Updates.distinctKeys (us : Updates) : DistinctKeys us.items :=
  us.ordered.imp fun {a b} below same => by
    rw [SettingsKey.lt_of_same same.1 same.2, SettingsKey.lt_irrefl] at below
    exact Bool.false_ne_true below

abbrev writesAt (setting key : String) (u : Update) : Bool :=
  u.key.setting == setting && u.key.key == key

theorem find?_eq_some_iff {l : List Update} (distinct : DistinctKeys l) {setting key : String}
    {u : Update} :
    l.find? (writesAt setting key) = some u ↔
      u ∈ l ∧ u.key.setting = setting ∧ u.key.key = key := by
  constructor
  · intro found
    have writes := List.find?_some found
    simp only [writesAt, Bool.and_eq_true, beq_iff_eq] at writes
    exact ⟨List.mem_of_find?_eq_some found, writes⟩
  · rintro ⟨member, setting_eq, key_eq⟩
    induction l with
    | nil => cases member
    | cons v rest ih =>
        simp only [DistinctKeys, List.pairwise_cons] at distinct
        rw [List.find?_cons]
        by_cases writes : v.key.setting = setting ∧ v.key.key = key
        · rcases List.mem_cons.mp member with rfl | later
          · simp [writesAt, writes]
          · exact absurd ⟨writes.1.trans setting_eq.symm, writes.2.trans key_eq.symm⟩
              (distinct.1 u later)
        · have skip : writesAt setting key v = false := by
            simpa [writesAt] using writes
          have later : u ∈ rest := by
            rcases List.mem_cons.mp member with rfl | later
            · exact absurd ⟨setting_eq, key_eq⟩ writes
            · exact later
          simp only [skip]
          exact ih distinct.2 later

theorem DistinctKeys.perm {l l' : List Update} (perm : l.Perm l') (distinct : DistinctKeys l) :
    DistinctKeys l' :=
  (List.Perm.pairwise_iff (fun {_ _} differ same => differ ⟨same.1.symm, same.2.symm⟩) perm).mp
    distinct

theorem find?_eq_of_perm {l l' : List Update} (perm : l.Perm l') (distinct : DistinctKeys l)
    (setting key : String) :
    l.find? (writesAt setting key) = l'.find? (writesAt setting key) := by
  have distinct' := distinct.perm perm
  apply Option.ext
  intro u
  rw [find?_eq_some_iff distinct, find?_eq_some_iff distinct', perm.mem_iff]

theorem Updates.find?_eq (us : Updates) (setting key : String) :
    us.find? setting key = us.items.find? (writesAt setting key) := rfl

namespace Updates

theorem find?_writes {us : Updates} {setting key : String} {u : Update}
    (found : us.find? setting key = some u) : u.key.setting = setting ∧ u.key.key = key :=
  ((find?_eq_some_iff us.distinctKeys).mp found).2

theorem find?_of_mem {us : Updates} {u : Update} (member : u ∈ us.items) :
    us.find? u.key.setting u.key.key = some u :=
  (find?_eq_some_iff us.distinctKeys).mpr ⟨member, rfl, rfl⟩

theorem find?_insertItem (u : Update) (l : List Update) (setting key : String) :
    (insertItem u l).find? (writesAt setting key) =
      if u.key.setting = setting ∧ u.key.key = key then some u
      else l.find? (writesAt setting key) := by
  induction l with
  | nil => by_cases here : u.key.setting = setting ∧ u.key.key = key <;> simp_all [insertItem]
  | cons v rest ih =>
      simp only [insertItem]
      by_cases same : u.key.setting = v.key.setting ∧ u.key.key = v.key.key
      · -- `u` replaces `v`, which is found exactly where `u` is
        have replaces : (u.key.setting == v.key.setting && u.key.key == v.key.key) = true := by
          simpa using same
        rw [if_pos replaces]
        by_cases here : u.key.setting = setting ∧ u.key.key = key <;> simp_all
      · have differ : (u.key.setting == v.key.setting && u.key.key == v.key.key) = false := by
          simpa using same
        rw [if_neg (by simp [differ])]
        split
        · by_cases here : u.key.setting = setting ∧ u.key.key = key <;> simp_all [List.find?_cons]
        · rw [List.find?_cons, List.find?_cons, ih]
          by_cases there : v.key.setting = setting ∧ v.key.key = key
          · have elsewhere : ¬ (u.key.setting = setting ∧ u.key.key = key) :=
              fun here => same ⟨here.1.trans there.1.symm, here.2.trans there.2.symm⟩
            have hit : writesAt setting key v = true := by simpa using there
            simp only [hit, elsewhere, if_false]
          · have skip : writesAt setting key v = false := by simpa using there
            simp only [skip]

theorem find?_insert (us : Updates) (u : Update) (setting key : String) :
    (us.insert u).find? setting key =
      if u.key.setting = setting ∧ u.key.key = key then some u else us.find? setting key :=
  find?_insertItem u us.items setting key

theorem find?_erase (us : Updates) (setting key other otherKey : String) :
    (us.erase setting key).find? other otherKey =
      if other = setting ∧ otherKey = key then none else us.find? other otherKey := by
  simp only [erase, find?, List.find?_filter]
  by_cases here : other = setting ∧ otherKey = key
  · obtain ⟨rfl, rfl⟩ := here
    rw [if_pos ⟨rfl, rfl⟩, List.find?_eq_none]
    intro u _
    cases u.key.setting == other && u.key.key == otherKey <;> simp
  · rw [if_neg here]
    congr 1
    funext u
    cases writes : (u.key.setting == other && u.key.key == otherKey)
    · simp
    · simp only [Bool.and_eq_true, beq_iff_eq] at writes
      have kept : (u.key.setting == setting && u.key.key == key) = false := by
        have differ : ¬ (u.key.setting = setting ∧ u.key.key = key) :=
          fun erased => here ⟨writes.1.symm.trans erased.1, writes.2.symm.trans erased.2⟩
        simpa using differ
      simp [kept]

end Updates

end NetConsole
