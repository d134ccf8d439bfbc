import Mathlib
import NetConsole.Settings.Update

/-! The selector of an update kind. Only the Kelvin sign outside ASCII lowercases to an ASCII
letter, `k`, which no name holds, so a selector lowercases to a name exactly when it equals the
name up to ASCII case. -/

namespace NetConsole

namespace Text

theorem toLower_of_wide {c : Char} (wide : 0x80 ≤ c.toNat) : c.toLower = c := by
  refine Char.toLower_eq_of_not_isUpper fun upper => ?_
  simp only [Char.isUpper, decide_eq_true_eq] at upper
  have small : c.val.toNat ≤ 90 := upper.2
  rw [← Char.toNat_val] at wide
  omega

theorem lowerChar_of_ascii {c : Char} (ascii : c.toNat < 0x80) : lowerChar c = [c.toLower] := by
  simp [lowerChar, ascii]

def LowerRun.LeavesAscii (r : LowerRun) : Prop :=
  0x80 ≤ r.target ∧ (r.target + (r.last - r.first) < 0xD800 ∨
    0xDFFF < r.target ∧ r.target + (r.last - r.first) < 0x110000)

instance (r : LowerRun) : Decidable r.LeavesAscii :=
  inferInstanceAs (Decidable (0x80 ≤ r.target ∧ _))

theorem lowerRuns_leave_ascii :
    ∀ r ∈ lowerRuns, r = ⟨0x212A, 0x212A, 1, 0x6B⟩ ∨ r.LeavesAscii := by
  decide +kernel

theorem exists_run_of_lowerMapping {n m : Nat} (mapped : lowerMapping n = some m) :
    ∃ r ∈ lowerRuns, r.first ≤ n ∧ n ≤ r.last ∧ m = r.target + (n - r.first) := by
  obtain ⟨r, found, rfl⟩ := Option.map_eq_some_iff.mp mapped
  have covers := List.find?_some found
  simp only [LowerRun.covers, Bool.and_eq_true, decide_eq_true_eq] at covers
  exact ⟨r, List.mem_of_find?_eq_some found, covers.1.1, covers.1.2, rfl⟩

theorem toNat_ofNat_of_run {r : LowerRun} {n : Nat} (leaves : r.LeavesAscii) (low : r.first ≤ n)
    (high : n ≤ r.last) : 0x80 ≤ (Char.ofNat (r.target + (n - r.first))).toNat := by
  obtain ⟨above, valid⟩ := leaves
  have character : (r.target + (n - r.first)).isValidChar := by
    unfold Nat.isValidChar
    omega
  rw [Char.toNat_ofNat, if_pos character]
  omega

/-- A character outside ASCII lowercases to a text that holds a character outside ASCII, or to
the letter `k`. -/
theorem lowerChar_leaves_ascii {c : Char} (wide : 0x80 ≤ c.toNat) :
    ∃ d ∈ lowerChar c, 0x80 ≤ d.toNat ∨ d = 'k' := by
  unfold lowerChar
  rw [if_neg (by omega)]
  split
  · -- the capital I with a dot keeps its dot as a combining mark
    exact ⟨'\u0307', by simp, .inl (by decide)⟩
  · cases mapped : lowerMapping c.toNat with
    | none => exact ⟨c, by simp, .inl wide⟩
    | some m =>
      obtain ⟨r, member, low, high, rfl⟩ := exists_run_of_lowerMapping mapped
      rcases lowerRuns_leave_ascii r member with rfl | leaves
      · dsimp only at low high
        have kelvin : c.toNat = 0x212A := by omega
        exact ⟨'k', by simp [kelvin], .inr rfl⟩
      · exact ⟨_, List.mem_singleton_self _, .inl (toNat_ofNat_of_run leaves low high)⟩

theorem sigmaLower_leaves_ascii (before after : List Char) :
    0x80 ≤ (sigmaLower before after).toNat := by
  unfold sigmaLower
  split <;> decide

def PlainAscii (w : List Char) : Prop := ∀ d ∈ w, d.toNat < 0x80 ∧ d ≠ 'k'

instance (w : List Char) : Decidable (PlainAscii w) :=
  inferInstanceAs (Decidable (∀ d ∈ w, d.toNat < 0x80 ∧ d ≠ 'k'))

theorem lowered_leaves_ascii {c : Char} (wide : 0x80 ≤ c.toNat) (before after : List Char) :
    ∃ d ∈ (if c = 'Σ' then [sigmaLower before after] else lowerChar c), 0x80 ≤ d.toNat ∨ d = 'k' := by
  split
  · exact ⟨_, List.mem_singleton_self _, .inl (sigmaLower_leaves_ascii before after)⟩
  · exact lowerChar_leaves_ascii wide

/-- A plain ASCII text is the lowercase of exactly the texts that fold to it under ASCII case,
whatever came before: a character outside ASCII lowercases to one outside the text, and the final
sigma rule only chooses between two sigmas. -/
theorem lowercaseFrom_eq_iff {w : List Char} (plain : PlainAscii w) (before cs : List Char) :
    lowercaseFrom before cs = w ↔ cs.map Char.toLower = w := by
  induction cs generalizing before w with
  | nil => simp [lowercaseFrom]
  | cons c cs ih =>
    by_cases ascii : c.toNat < 0x80
    · have notSigma : c ≠ 'Σ' := fun same => by simp [same] at ascii
      rw [lowercaseFrom, if_neg notSigma, lowerChar_of_ascii ascii]
      cases w with
      | nil => simp
      | cons d w =>
        have rest : PlainAscii w := fun e member => plain e (List.mem_cons_of_mem d member)
        simp [ih rest]
    · have wide : 0x80 ≤ c.toNat := by omega
      obtain ⟨d, lowered, leaves⟩ := lowered_leaves_ascii wide before cs
      -- neither side can hold the character found outside the plain text
      have absent : ∀ e ∈ w, ¬(0x80 ≤ e.toNat ∨ e = 'k') := by
        rintro e member (wide | rfl)
        · exact absurd (plain e member).1 (by omega)
        · exact (plain _ member).2 rfl
      refine iff_of_false (fun same => absent d ?_ leaves) (fun same => absent c ?_ (.inl wide))
      · rw [← same, lowercaseFrom]
        exact List.mem_append_left _ lowered
      · rw [← same, List.map_cons, toLower_of_wide wide]
        exact List.mem_cons_self

theorem toLowercase_eq_iff {t w : String} (plain : PlainAscii w.toList) :
    toLowercase t = w ↔ t.toLower = w := by
  rw [String.ext_iff, String.ext_iff, toLowercase, String.toList_ofList,
    lowercaseFrom_eq_iff plain, String.toLower, String.toList_map]

end Text

namespace UpdateKind

theorem parse_eq (raw : String) :
    parse raw =
      let selector := Text.toLowercase (Text.trimBlanks raw)
      if selector = "apply temporarily" ∨ selector = "apply" then .ok .apply
      else if selector = "save and apply" ∨ selector = "save" then .ok .save
      else .error (.unknownUpdateKind raw) := by
  simp [parse]

end UpdateKind

open UpdateKind in
/-- The selector of an update kind is read up to ASCII case once its surrounding blanks are gone:
`apply` and `apply temporarily` apply, `save` and `save and apply` save, and any other text is
refused, quoted as given. Each kind's own name reads back as it, and a kind applies in memory
(flag 0x2) or saves to disk (flag 0x1). `String.toLower` lowers ASCII letters only. -/
theorem update_kind_selectors :
    (∀ s, (parse s = .ok .apply ↔
        (Text.trimBlanks s).toLower = "apply" ∨ (Text.trimBlanks s).toLower = "apply temporarily") ∧
      (parse s = .ok .save ↔
        (Text.trimBlanks s).toLower = "save" ∨ (Text.trimBlanks s).toLower = "save and apply") ∧
      (∀ e, parse s = .error e ↔ e = .unknownUpdateKind s ∧
        (Text.trimBlanks s).toLower ∉ ["apply", "apply temporarily", "save", "save and apply"])) ∧
    (∀ k, parse k.text = .ok k) ∧ apply.flags.bits = 0x2 ∧ save.flags.bits = 0x1 := by
  refine ⟨fun s => ?_, fun k => by cases k <;> rfl, rfl, rfl⟩
  have names : ∀ w ∈ ["apply", "apply temporarily", "save", "save and apply"],
      Text.toLowercase (Text.trimBlanks s) = w ↔ (Text.trimBlanks s).toLower = w := by
    intro w named
    refine Text.toLowercase_eq_iff ?_
    simp only [List.mem_cons, List.not_mem_nil, or_false] at named
    rcases named with rfl | rfl | rfl | rfl <;> simp [Text.PlainAscii]
  rw [parse_eq]
  simp only [names "apply" (by simp), names "apply temporarily" (by simp), names "save" (by simp),
    names "save and apply" (by simp)]
  by_cases applies : (Text.trimBlanks s).toLower = "apply temporarily" ∨
      (Text.trimBlanks s).toLower = "apply"
  · rcases applies with same | same <;> simp [same]
  · by_cases saves : (Text.trimBlanks s).toLower = "save and apply" ∨
        (Text.trimBlanks s).toLower = "save"
    · rcases saves with same | same <;> simp [same]
    · simp only [not_or] at applies saves
      simp [applies, saves, eq_comm]

end NetConsole
