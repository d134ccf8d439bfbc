import NetConsole.Proofs.FieldRules

/-! Text enumerations against their tables. `TextChoice.FollowsTable` is what an enumeration
promises of its table; the set laws follow from the laws of single values, and those from the
shape every table has: texts read by name and a constructor keeping any other text. -/

namespace NetConsole

namespace TextChoice

/-- The laws of the enumeration `α` over its table, where `spelling s` is the text the value
read from `s` is written as, and `unknown s` the text an unknown `s` is refused with. -/
structure FollowsTable (α : Type) [TextChoice α] (spelling unknown : String → String) : Prop where
  check_ofRaw : ∀ s, check (ofRaw s : α) =
    if spelling s ∈ known α then .ok () else .error (.invalidEnum (unknown s))
  raw_ofRaw : ∀ s, raw (ofRaw s : α) = spelling s
  ofRaw_raw_ofRaw : ∀ s, ofRaw (raw (ofRaw s : α)) = (ofRaw s : α)
  check_ofRaws : ∀ vs, (ChoiceSet.ofRaws vs : ChoiceSet α).check =
    match vs.find? (fun s => decide (spelling s ∉ known α)) with
    | none => .ok ()
    | some s => .error (.invalidEnum (unknown s))
  normalize_ofRaws : ∀ vs, (ChoiceSet.ofRaws vs : ChoiceSet α).normalize =
    if vs = [] ∨ ∀ k ∈ known α, k ∈ vs.map spelling then ⟨[]⟩ else ChoiceSet.ofRaws vs
  normalize_normalize : ∀ c : ChoiceSet α, c.normalize.normalize = c.normalize

end TextChoice

namespace ChoiceSet

variable {α : Type} [TextChoice α] {spelling unknown : String → String}

theorem check_ofRaws
    (checks : ∀ s, TextChoice.check (TextChoice.ofRaw s : α) =
      if spelling s ∈ TextChoice.known α then .ok () else .error (.invalidEnum (unknown s)))
    (vs : List String) :
    (ofRaws vs : ChoiceSet α).check =
      match vs.find? (fun s => decide (spelling s ∉ TextChoice.known α)) with
      | none => .ok ()
      | some s => .error (.invalidEnum (unknown s)) := by
  induction vs with
  | nil => rfl
  | cons v vs ih =>
    have first : (ofRaws (v :: vs) : ChoiceSet α).check =
        TextChoice.check (TextChoice.ofRaw v : α) >>= fun _ => (ofRaws vs : ChoiceSet α).check :=
      rfl
    rw [first, List.find?_cons, checks]
    by_cases known : spelling v ∈ TextChoice.known α
    · simpa [known, bind, Except.bind] using ih
    · simp [known, bind, Except.bind]

theorem coversAllKnown_ofRaws (spells : ∀ s, TextChoice.raw (TextChoice.ofRaw s : α) = spelling s)
    (vs : List String) :
    (ofRaws vs : ChoiceSet α).coversAllKnown = true ↔ ∀ k ∈ TextChoice.known α, k ∈ vs.map spelling := by
  have written : (ofRaws vs : ChoiceSet α).strings = vs.map spelling := by
    simp [strings, ofRaws, Function.comp_def, spells]
  simp [coversAllKnown, written]

theorem normalize_ofRaws (spells : ∀ s, TextChoice.raw (TextChoice.ofRaw s : α) = spelling s)
    (vs : List String) :
    (ofRaws vs : ChoiceSet α).normalize =
      if vs = [] ∨ ∀ k ∈ TextChoice.known α, k ∈ vs.map spelling then ⟨[]⟩ else ofRaws vs := by
  unfold normalize
  by_cases covers : ∀ k ∈ TextChoice.known α, k ∈ vs.map spelling
  · rw [if_pos ((coversAllKnown_ofRaws spells vs).mpr covers), if_pos (.inr covers)]
  · rw [if_neg (mt (coversAllKnown_ofRaws spells vs).mp covers)]
    -- the empty list reads as the empty set, which the other branch gives too
    by_cases empty : vs = []
    · subst empty
      rw [if_pos (.inl rfl)]
      rfl
    · rw [if_neg (not_or.mpr ⟨empty, covers⟩)]

theorem coversAllKnown_empty (listed : TextChoice.known α ≠ []) :
    (⟨[]⟩ : ChoiceSet α).coversAllKnown = false := by
  obtain ⟨k, ks, eq⟩ := List.exists_cons_of_ne_nil listed
  simp [coversAllKnown, strings, eq]

theorem normalize_normalize (listed : TextChoice.known α ≠ []) (c : ChoiceSet α) :
    c.normalize.normalize = c.normalize := by
  unfold normalize
  by_cases covers : c.coversAllKnown = true
  · simp [covers, coversAllKnown_empty listed]
  · simp [covers]

end ChoiceSet

namespace TextChoice.FollowsTable

variable {α : Type} [TextChoice α] {spelling unknown : String → String}

theorem of_reads
    (checks : ∀ s, check (ofRaw s : α) =
      if spelling s ∈ known α then .ok () else .error (.invalidEnum (unknown s)))
    (spells : ∀ s, raw (ofRaw s : α) = spelling s)
    (respells : ∀ s, (ofRaw (spelling s) : α) = ofRaw s)
    (listed : known α ≠ []) : FollowsTable α spelling unknown where
  check_ofRaw := checks
  raw_ofRaw := spells
  ofRaw_raw_ofRaw s := by rw [spells, respells]
  check_ofRaws := ChoiceSet.check_ofRaws checks
  normalize_ofRaws := ChoiceSet.normalize_ofRaws spells
  normalize_normalize := ChoiceSet.normalize_normalize listed

/-- A table reads each text of `listed` by name and keeps any other text in `other`; the laws
then come down to the listed texts, which are finitely many. -/
theorem of_other (other : String → α) (listed : List String)
    (ofRaw_other : ∀ s, s ∉ listed → ofRaw s = other s)
    (raw_other : ∀ s, raw (other s) = s)
    (describe_other : ∀ s, describe (other s) = .unknown (unknown s))
    (unlisted : ∀ s, s ∉ listed → spelling s = s ∧ s ∉ known α)
    (listed_laws : ∀ s ∈ listed, spelling s ∈ known α ∧ raw (ofRaw s : α) = spelling s ∧
      ofRaw (spelling s) = (ofRaw s : α) ∧ (describe (ofRaw s : α)).isError = false)
    (nonempty : known α ≠ []) : FollowsTable α spelling unknown := by
  refine of_reads (fun s => ?_) (fun s => ?_) (fun s => ?_) nonempty
  · by_cases named : s ∈ listed
    · obtain ⟨known, -, -, passes⟩ := listed_laws s named
      simpa [known] using (check_eq_ok_iff _).mpr passes
    · obtain ⟨same, unknown⟩ := unlisted s named
      simp [check, ofRaw_other s named, describe_other, same, unknown, Description.check,
        Description.unknown, Description.isError]
  · by_cases named : s ∈ listed
    · exact (listed_laws s named).2.1
    · rw [ofRaw_other s named, raw_other, (unlisted s named).1]
  · by_cases named : s ∈ listed
    · exact (listed_laws s named).2.2.1
    · rw [(unlisted s named).1]

end TextChoice.FollowsTable

open TextChoice

theorem WifiBand.followsTable : FollowsTable WifiBand id (fun s => s!"unknown band ({s})") := by
  refine .of_other .other (known WifiBand) (fun s unlisted => ?_) (fun _ => rfl) (fun _ => rfl)
    (fun _ unlisted => ⟨rfl, unlisted⟩) (by decide) (by decide)
  simp only [known, List.mem_cons, List.not_mem_nil, or_false, not_or] at unlisted
  simp [ofRaw, unlisted]

theorem WifiMode.followsTable :
    FollowsTable WifiMode (fun s => if s = "" then "infrastructure" else s)
      (fun s => s!"unknown mode ({s})") := by
  refine .of_other .other ("" :: known WifiMode) (fun s unlisted => ?_) (fun _ => rfl)
    (fun _ => rfl) (fun s unlisted => ?_) (by decide) (by decide)
  · simp only [known, List.mem_cons, List.not_mem_nil, or_false, not_or] at unlisted
    simp [ofRaw, unlisted]
  · simp only [List.mem_cons, not_or] at unlisted
    exact ⟨if_neg unlisted.1, unlisted.2⟩

theorem KeyMgmt.followsTable :
    FollowsTable KeyMgmt id (fun s => s!"unknown key management ({s})") := by
  refine .of_other .other (known KeyMgmt) (fun s unlisted => ?_) (fun _ => rfl) (fun _ => rfl)
    (fun _ unlisted => ⟨rfl, unlisted⟩) (by decide) (by decide)
  simp only [known, List.mem_cons, List.not_mem_nil, or_false, not_or] at unlisted
  simp [ofRaw, unlisted]

theorem GroupCipher.followsTable :
    FollowsTable GroupCipher id (fun s => s!"unknown group/broadcast encryption algorithm ({s})") := by
  refine .of_other .other (known GroupCipher) (fun s unlisted => ?_) (fun _ => rfl) (fun _ => rfl)
    (fun _ unlisted => ⟨rfl, unlisted⟩) (by decide) (by decide)
  simp only [known, List.mem_cons, List.not_mem_nil, or_false, not_or] at unlisted
  simp [ofRaw, unlisted]

theorem PairwiseCipher.followsTable :
    FollowsTable PairwiseCipher id (fun s => s!"unknown pairwise encryption algorithm ({s})") := by
  refine .of_other .other (known PairwiseCipher) (fun s unlisted => ?_) (fun _ => rfl)
    (fun _ => rfl) (fun _ unlisted => ⟨rfl, unlisted⟩) (by decide) (by decide)
  simp only [known, List.mem_cons, List.not_mem_nil, or_false, not_or] at unlisted
  simp [ofRaw, unlisted]

theorem WpaProto.followsTable :
    FollowsTable WpaProto id (fun s => s!"unknown WPA protocol version ({s})") := by
  refine .of_other .other (known WpaProto) (fun s unlisted => ?_) (fun _ => rfl) (fun _ => rfl)
    (fun _ unlisted => ⟨rfl, unlisted⟩) (by decide) (by decide)
  simp only [known, List.mem_cons, List.not_mem_nil, or_false, not_or] at unlisted
  simp [ofRaw, unlisted]

/-- Every enumeration of a profile follows its table. Only the mode has an alias: the empty text
reads, checks and counts in a set as infrastructure. -/
theorem text_choices_follow_tables :
    FollowsTable WifiBand id (fun s => s!"unknown band ({s})") ∧
    FollowsTable WifiMode (fun s => if s = "" then "infrastructure" else s)
      (fun s => s!"unknown mode ({s})") ∧
    FollowsTable KeyMgmt id (fun s => s!"unknown key management ({s})") ∧
    FollowsTable GroupCipher id (fun s => s!"unknown group/broadcast encryption algorithm ({s})") ∧
    FollowsTable PairwiseCipher id (fun s => s!"unknown pairwise encryption algorithm ({s})") ∧
    FollowsTable WpaProto id (fun s => s!"unknown WPA protocol version ({s})") :=
  ⟨WifiBand.followsTable, WifiMode.followsTable, KeyMgmt.followsTable, GroupCipher.followsTable,
    PairwiseCipher.followsTable, WpaProto.followsTable⟩

/-- A set of modes that names infrastructure only by the empty text still covers the table, so
it normalizes to the empty set although infrastructure is not among its texts. -/
theorem mode_set_covers_table_through_empty_text :
    ¬ ((ChoiceSet.ofRaws ["", "mesh", "adhoc", "ap"] : ChoiceSet WifiMode).normalize.members = [] ↔
      (["", "mesh", "adhoc", "ap"] = [] ∨
        ∀ k ∈ known WifiMode, k ∈ ["", "mesh", "adhoc", "ap"])) := by
  decide

end NetConsole
