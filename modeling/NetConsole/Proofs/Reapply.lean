import NetConsole.Proofs.Merge
import NetConsole.Form.Translate
import NetConsole.Proofs.StoreRuns

/-! Merging the same updates twice gives the same map, except when the stored key management
opened the network, none was submitted and an update writes into the security section: the first
merge removed that section, and the second creates it anew. -/

namespace NetConsole

namespace RawSettings

open NetConsole.Bus (Value)

theorem view_eq_ite (raw : RawSettings) (setting : String) :
    raw.view setting = if (raw.get? setting).isSome then some (raw.valueAt setting) else none := by
  cases present : raw.get? setting with
  | none => simp [view, present]
  | some s =>
      simp only [view, present, Option.map_some, Option.isSome_some, if_true, Option.some.injEq]
      funext key
      simp [valueAt, present]

theorem valueAt_merge (raw : RawSettings) (us : Updates) (setting key : String) :
    (merge raw us).valueAt setting key =
      if setting = Setting.wifiSecurity ∧ resolvesToOpen raw us = true then none
      else match us.find? setting key with
        | some u => u.written
        | none => (stripLegacy raw).valueAt setting key := by
  rw [merge_eq_mergeVisiting]
  exact valueAt_mergeVisiting (List.Perm.refl _) raw setting key

theorem hasSetting_merge (raw : RawSettings) (us : Updates) (setting : String) :
    ((merge raw us).get? setting).isSome = true ↔
      ((raw.get? setting).isSome = true ∨
          ∃ u ∈ us.items, u.key.setting = setting ∧ u.clearsBand = false) ∧
        ¬ (setting = Setting.wifiSecurity ∧ resolvesToOpen raw us = true) :=
  hasSetting_mergeVisiting (List.Perm.refl _) raw setting

theorem Updates.find?_ip (us : Updates) {setting : String}
    (ip : setting = Setting.ipv4 ∨ setting = Setting.ipv6) (key : String) :
    us.find? setting key = none := by
  apply List.find?_eq_none.mpr
  intro u _ writes
  simp only [Bool.and_eq_true, beq_iff_eq] at writes
  rcases ip with ip | ip
  · exact (Update.ne_ip u).1 (writes.1.trans ip)
  · exact (Update.ne_ip u).2 (writes.1.trans ip)

theorem valueAt_stripLegacy_merge (raw : RawSettings) (us : Updates) (setting key : String) :
    (stripLegacy (merge raw us)).valueAt setting key = (merge raw us).valueAt setting key := by
  rw [valueAt_stripLegacy]
  by_cases legacy : (setting = Setting.ipv4 ∨ setting = Setting.ipv6) ∧ key ∈ legacyKeys
  · have notSecurity : setting ≠ Setting.wifiSecurity := by
      rcases legacy.1 with rfl | rfl <;> simp [Setting.ipv4, Setting.ipv6, Setting.wifiSecurity]
    rw [if_pos legacy, valueAt_merge, if_neg fun removed => notSecurity removed.1,
      Updates.find?_ip us legacy.1, valueAt_stripLegacy, if_pos legacy]
  · rw [if_neg legacy]

/-- After a merge, the network is found open only when an update submits the open key
management: the stored empty one went with its section. -/
theorem resolvesToOpen_merge (raw : RawSettings) (us : Updates) :
    resolvesToOpen (merge raw us) us = true ↔
      ∃ k, us.find? Setting.wifiSecurity "key-mgmt" = some (.keyMgmt k) ∧ TextChoice.raw k = "" := by
  rw [resolvesToOpen_iff]
  refine ⟨fun opens => ?_, .inl⟩
  rcases opens with submitted | ⟨unsubmitted, stored⟩
  · exact submitted
  · exfalso
    rw [valueAt_merge, unsubmitted] at stored
    by_cases opened : resolvesToOpen raw us = true
    · simp [opened] at stored
    · rw [if_neg fun removed => opened removed.2, valueAt_stripLegacy,
        if_neg (by simp [Setting.wifiSecurity, Setting.ipv4, Setting.ipv6])] at stored
      exact opened ((resolvesToOpen_iff raw us).mpr (.inr ⟨unsubmitted, stored⟩))

/-- The case where merging twice differs from merging once: no key management is submitted, the
stored one opens the network, and so the first merge removed the security section. -/
def reopensSecurity (raw : RawSettings) (us : Updates) : Bool :=
  (us.find? Setting.wifiSecurity "key-mgmt").isNone && resolvesToOpen raw us

theorem reopensSecurity_iff {raw : RawSettings} {us : Updates} :
    reopensSecurity raw us = true ↔
      us.find? Setting.wifiSecurity "key-mgmt" = none ∧ resolvesToOpen raw us = true := by
  simp [reopensSecurity]

/-- An open network whose open key management was not submitted is one the first merge opened from
the stored key management. -/
theorem reopensSecurity_of_opened {raw : RawSettings} {us : Updates}
    (opened : resolvesToOpen raw us = true)
    (unsubmitted : ¬ ∃ k, us.find? Setting.wifiSecurity "key-mgmt" = some (.keyMgmt k) ∧
      TextChoice.raw k = "") :
    reopensSecurity raw us = true := by
  rcases (resolvesToOpen_iff raw us).mp opened with submitted | ⟨none_, -⟩
  · exact absurd submitted unsubmitted
  · exact reopensSecurity_iff.mpr ⟨none_, opened⟩

/-- The second merge writes every key as the first did, except in a removed security section,
which now holds just the updates' values. -/
theorem valueAt_merge_merge (raw : RawSettings) (us : Updates) (setting key : String) :
    (merge (merge raw us) us).valueAt setting key =
      if setting = Setting.wifiSecurity ∧ reopensSecurity raw us = true then
        (us.find? setting key).map Update.toValue
      else (merge raw us).valueAt setting key := by
  rw [valueAt_merge (merge raw us), valueAt_stripLegacy_merge]
  by_cases submitted : ∃ k, us.find? Setting.wifiSecurity "key-mgmt" = some (.keyMgmt k) ∧
      TextChoice.raw k = ""
  · -- an open key management is submitted: both merges remove the security section
    have opened : resolvesToOpen raw us = true := (resolvesToOpen_iff raw us).mpr (.inl submitted)
    have reopened := (resolvesToOpen_merge raw us).mpr submitted
    have notReopens : reopensSecurity raw us = false := by
      obtain ⟨k, found, -⟩ := submitted
      simp [reopensSecurity, found]
    by_cases security : setting = Setting.wifiSecurity
    · simp [security, reopened, notReopens, valueAt_merge, opened]
    · rw [if_neg fun removed => security removed.1, if_neg fun removed => security removed.1,
        valueAt_merge, if_neg fun removed => security removed.1]
      cases us.find? setting key <;> rfl
  · have closed : resolvesToOpen (merge raw us) us = false :=
      Bool.eq_false_iff.mpr fun opens => submitted ((resolvesToOpen_merge raw us).mp opens)
    rw [if_neg (by simp [closed])]
    cases found : us.find? setting key with
    | none =>
        by_cases removed : setting = Setting.wifiSecurity ∧ reopensSecurity raw us = true
        · rw [if_pos removed, Option.map_none, valueAt_merge,
            if_pos ⟨removed.1, (reopensSecurity_iff.mp removed.2).2⟩]
        · rw [if_neg removed]
    | some u =>
        -- the update is written again, and a security update is no band
        have writes := Updates.find?_writes found
        by_cases removed : setting = Setting.wifiSecurity ∧ reopensSecurity raw us = true
        · have keeps : u.clearsBand = false := by
            cases clears : u.clearsBand
            · rfl
            · rw [Update.key_of_clearsBand clears] at writes
              exact absurd (writes.1.trans removed.1) (by simp [Setting.wifi, Setting.wifiSecurity])
          simp only [if_pos removed, Option.map_some, Update.written, keeps]
          rfl
        · rw [if_neg removed, valueAt_merge, found]
          -- outside a removed section the first merge wrote the update too
          rw [if_neg fun kept => removed ⟨kept.1, reopensSecurity_of_opened kept.2 submitted⟩]

/-- The second merge keeps every setting the first one left, and creates a removed security
section again exactly when an update writes into it. -/
theorem hasSetting_merge_merge (raw : RawSettings) (us : Updates) (setting : String) :
    ((merge (merge raw us) us).get? setting).isSome = true ↔
      if setting = Setting.wifiSecurity ∧ reopensSecurity raw us = true then
        ∃ u ∈ us.items, u.key.setting = Setting.wifiSecurity
      else ((merge raw us).get? setting).isSome = true := by
  rw [hasSetting_merge (merge raw us)]
  -- an update that names a setting the first merge kept adds nothing
  have named : ∀ u ∈ us.items, u.key.setting = setting → u.clearsBand = false →
      ¬ (setting = Setting.wifiSecurity ∧ resolvesToOpen raw us = true) →
      ((merge raw us).get? setting).isSome = true :=
    fun u member names keeps kept => (hasSetting_merge raw us setting).mpr ⟨.inr ⟨u, member, names, keeps⟩, kept⟩
  by_cases submitted : ∃ k, us.find? Setting.wifiSecurity "key-mgmt" = some (.keyMgmt k) ∧
      TextChoice.raw k = ""
  · have opened : resolvesToOpen raw us = true := (resolvesToOpen_iff raw us).mpr (.inl submitted)
    have reopened := (resolvesToOpen_merge raw us).mpr submitted
    have notReopens : reopensSecurity raw us = false := by
      obtain ⟨k, found, -⟩ := submitted
      simp [reopensSecurity, found]
    by_cases security : setting = Setting.wifiSecurity
    · subst security
      simp [reopened, notReopens, hasSetting_merge raw us, opened]
    · simp only [security, false_and, not_false_eq_true, and_true, if_false]
      refine ⟨?_, .inl⟩
      rintro (kept | ⟨u, member, names, keeps⟩)
      · exact kept
      · exact named u member names keeps fun removed => security removed.1
  · have closed : resolvesToOpen (merge raw us) us = false :=
      Bool.eq_false_iff.mpr fun opens => submitted ((resolvesToOpen_merge raw us).mp opens)
    simp only [closed, Bool.false_eq_true, and_false, not_false_eq_true, and_true]
    by_cases removed : setting = Setting.wifiSecurity ∧ reopensSecurity raw us = true
    · -- the first merge removed the section; only a security update writes it again
      have gone : ((merge raw us).get? setting).isSome = false := by
        cases kept : ((merge raw us).get? setting).isSome
        · rfl
        · exact absurd ⟨removed.1, (reopensSecurity_iff.mp removed.2).2⟩
            ((hasSetting_merge raw us setting).mp kept).2
      rw [if_pos removed, gone]
      obtain ⟨rfl, -⟩ := removed
      constructor
      · rintro (absurd_ | ⟨u, member, names, -⟩)
        · cases absurd_
        · exact ⟨u, member, names⟩
      · rintro ⟨u, member, names⟩
        refine .inr ⟨u, member, names, ?_⟩
        cases clears : u.clearsBand
        · rfl
        · rw [Update.key_of_clearsBand clears] at names
          exact absurd names (by simp [Setting.wifi, Setting.wifiSecurity])
    · rw [if_neg removed]
      refine ⟨?_, .inl⟩
      rintro (kept | ⟨u, member, names, keeps⟩)
      · exact kept
      · exact named u member names keeps fun kept =>
          removed ⟨kept.1, reopensSecurity_of_opened kept.2 submitted⟩

theorem view_merge_security_of_reopens {raw : RawSettings} {us : Updates}
    (reopens : reopensSecurity raw us = true) : (merge raw us).view Setting.wifiSecurity = none := by
  rw [view_eq_ite, if_neg]
  intro kept
  exact ((hasSetting_merge raw us _).mp kept).2 ⟨rfl, (reopensSecurity_iff.mp reopens).2⟩

/-- Merging the same updates a second time gives the same map, except when no key management is
submitted and the stored one was the empty text, so the first merge removed the security section,
and some update writes into that section: the second merge then creates it anew holding exactly
the updates' values. -/
theorem view_merge_merge (raw : RawSettings) (us : Updates) :
    (merge (merge raw us) us).view =
      if reopensSecurity raw us = true ∧
          (us.items.any fun u => u.key.setting == Setting.wifiSecurity) = true then
        fun setting => if setting = Setting.wifiSecurity then
          some fun key => (us.find? Setting.wifiSecurity key).map Update.toValue
        else (merge raw us).view setting
      else (merge raw us).view := by
  funext setting
  by_cases removed : setting = Setting.wifiSecurity ∧ reopensSecurity raw us = true
  · obtain ⟨rfl, reopens⟩ := removed
    have gone := view_merge_security_of_reopens reopens
    have values : ∀ key, (merge (merge raw us) us).valueAt Setting.wifiSecurity key =
        (us.find? Setting.wifiSecurity key).map Update.toValue := fun key => by
      rw [valueAt_merge_merge, if_pos ⟨rfl, reopens⟩]
    have present := hasSetting_merge_merge raw us Setting.wifiSecurity
    rw [if_pos ⟨rfl, reopens⟩] at present
    rw [view_eq_ite]
    by_cases written : ∃ u ∈ us.items, u.key.setting = Setting.wifiSecurity
    · have anyWritten : (us.items.any fun u => u.key.setting == Setting.wifiSecurity) = true := by
        simpa using written
      rw [if_pos (present.mpr written), if_pos ⟨reopens, anyWritten⟩, if_pos rfl]
      exact congrArg some (funext values)
    · have noneWritten : (us.items.any fun u => u.key.setting == Setting.wifiSecurity) = false := by
        simpa using written
      rw [if_neg (fun kept => written (present.mp kept)), noneWritten]
      simp [gone]
  · have values : ∀ key, (merge (merge raw us) us).valueAt setting key =
        (merge raw us).valueAt setting key := fun key => by
      rw [valueAt_merge_merge, if_neg removed]
    have present := hasSetting_merge_merge raw us setting
    rw [if_neg removed] at present
    -- off the removed section the second merge keeps the first one's map
    have same : (merge (merge raw us) us).view setting = (merge raw us).view setting := by
      rw [view_eq_ite, view_eq_ite, funext values]
      by_cases kept : ((merge raw us).get? setting).isSome = true
      · rw [if_pos (present.mpr kept), if_pos kept]
      · rw [if_neg (fun again => kept (present.mp again)), if_neg kept]
    rw [same]
    split
    · rename_i both
      dsimp only
      rw [if_neg fun security => removed ⟨security, both.1⟩]
    · rfl

theorem view_merge_merge_eq_iff (raw : RawSettings) (us : Updates) :
    (merge (merge raw us) us).view = (merge raw us).view ↔
      ¬ (reopensSecurity raw us = true ∧
        (us.items.any fun u => u.key.setting == Setting.wifiSecurity) = true) := by
  rw [view_merge_merge]
  split
  · rename_i reopened
    refine iff_of_false (fun same => ?_) (not_not_intro reopened)
    -- the second merge holds a security section, the first none
    have atSecurity := congrFun same Setting.wifiSecurity
    rw [if_pos rfl, view_merge_security_of_reopens reopened.1] at atSecurity
    cases atSecurity
  · rename_i kept
    exact iff_of_true rfl kept

/-- A stored empty key management and a PSK submitted on its own: the first merge writes the PSK
and then removes the security section of the open network, the second writes the PSK into a new
section, which stays since no empty key management is stored any more. -/
theorem psk_after_open_network_reappears :
    let raw : RawSettings := [(Setting.wifiSecurity, [("key-mgmt", .string "")])]
    let us := Updates.empty.insert (.psk "secret")
    (Form.ofPairs [("802-11-wireless-security.psk", "secret")]).translate = .ok us ∧
      merge raw us = [] ∧
      merge (merge raw us) us = [(Setting.wifiSecurity, [("psk", .string "secret")])] ∧
      (merge (merge raw us) us).view ≠ (merge raw us).view := by
  intro raw us
  have once : merge raw us = [] := rfl
  have twice : merge (merge raw us) us = [(Setting.wifiSecurity, [("psk", .string "secret")])] := rfl
  refine ⟨rfl, once, twice, fun same => ?_⟩
  have atSecurity := congrFun same Setting.wifiSecurity
  rw [twice, once] at atSecurity
  simp [view, Table.get?_cons] at atSecurity

end RawSettings

open RawSettings MemoryBackend in
/-- Merging the same updates twice changes the map only by writing anew the security section the
first merge removed; and submitting the same form twice through the in-memory store submits, the
second time, and stores, the first submission merged again, which is the same map exactly
outside that case. -/
theorem resubmitting_rewrites_only_reopened_security :
    (∀ (raw : RawSettings) (us : Updates), (merge (merge raw us) us).view =
      if reopensSecurity raw us = true ∧
          (us.items.any fun u => u.key.setting == Setting.wifiSecurity) = true then
        fun setting => if setting = Setting.wifiSecurity then
          some fun key => (us.find? Setting.wifiSecurity key).map Update.toValue
        else (merge raw us).view setting
      else (merge raw us).view) ∧
    ∀ (b b1 b2 : MemoryBackend) (uuid : Uuid) (selector : String) (form : Form)
      (kind : UpdateKind) (us : Updates),
      Form.translateAs selector form = .ok (kind, us) →
      (StoreStep.update uuid selector form).run.run b = .ok () b1 →
      (StoreStep.update uuid selector form).run.run b1 = .ok () b2 →
      ∃ i p, b.lookupIndex? uuid = some i ∧ b.profiles[i]? = some p ∧
        b1.submitted = b.submitted ++ [(kind.flags, merge p.settings us)] ∧
        b2.submitted = b1.submitted ++ [(kind.flags, merge (merge p.settings us) us)] ∧
        b2.profiles[i]? = some { p with settings := merge (merge p.settings us) us } ∧
        ((merge (merge p.settings us) us).view = (merge p.settings us).view ↔
          ¬ (reopensSecurity p.settings us = true ∧
            (us.items.any fun u => u.key.setting == Setting.wifiSecurity) = true)) := by
  refine ⟨view_merge_merge, ?_⟩
  intro b b1 b2 uuid selector form kind us translated first second
  rw [StoreStep.run_update_ok translated] at first second
  obtain ⟨i, p, resolved, stored, logged, logged', kept⟩ := update_update_eq_ok first second
  exact ⟨i, p, resolved, stored, logged, logged', kept, view_merge_merge_eq_iff p.settings us⟩

end NetConsole
