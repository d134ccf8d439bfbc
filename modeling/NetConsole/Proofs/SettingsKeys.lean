import Mathlib.Data.List.TakeDrop
import Mathlib.Data.List.TakeWhile
import NetConsole.Settings.Key

/-! Settings keys read as they are written: `setting.key`, then `.remainder` when there is one,
with a setting and a key that are not empty and hold no dot. -/

namespace NetConsole

namespace SettingsKey

def fullText (k : SettingsKey) : String :=
  match k.remainder with
  | none => k.text
  | some r => k.text ++ "." ++ r

structure WellFormed (k : SettingsKey) : Prop where
  setting_ne : k.setting ≠ ""
  key_ne : k.key ≠ ""
  setting_dotless : '.' ∉ k.setting.toList
  key_dotless : '.' ∉ k.key.toList

theorem not_dot_of_dotless {cs : List Char} (dotless : '.' ∉ cs) : ∀ c ∈ cs, (c != '.') = true :=
  fun _ member => bne_iff_ne.mpr fun same => dotless (same ▸ member)

theorem splitAtDot_append {a : List Char} (b : List Char) (dotless : '.' ∉ a) :
    splitAtDot (a ++ '.' :: b) = some (a, b) := by
  have before : (a ++ '.' :: b).takeWhile (· != '.') = a := by
    rw [List.takeWhile_append_of_pos (not_dot_of_dotless dotless)]
    simp
  have after : (a ++ '.' :: b).dropWhile (· != '.') = '.' :: b := by
    rw [List.dropWhile_append_of_pos (not_dot_of_dotless dotless)]
    simp
  simp [splitAtDot, List.span_eq_takeWhile_dropWhile, before, after]

theorem splitAtDot_of_dotless {cs : List Char} (dotless : '.' ∉ cs) : splitAtDot cs = none := by
  have whole : cs.dropWhile (· != '.') = [] :=
    List.dropWhile_eq_nil_iff.mpr (not_dot_of_dotless dotless)
  simp [splitAtDot, List.span_eq_takeWhile_dropWhile, whole]

theorem dotless_or_split (cs : List Char) :
    '.' ∉ cs ∨ ∃ a b, '.' ∉ a ∧ cs = a ++ '.' :: b := by
  induction cs with
  | nil => exact .inl List.not_mem_nil
  | cons c cs ih =>
    by_cases dot : c = '.'
    · exact .inr ⟨[], cs, List.not_mem_nil, by simp [dot]⟩
    · rcases ih with dotless | ⟨a, b, dotless, rfl⟩
      · exact .inl (by simp [Ne.symm dot, dotless])
      · exact .inr ⟨c :: a, b, by simp [Ne.symm dot, dotless], rfl⟩

theorem toList_fullText (k : SettingsKey) :
    k.fullText.toList = k.setting.toList ++ '.' :: (k.key.toList ++
      match k.remainder with
      | none => []
      | some r => '.' :: r.toList) := by
  unfold fullText text
  cases k.remainder <;> simp

theorem parse_fullText {k : SettingsKey} (wf : k.WellFormed) : parse k.fullText = .ok k := by
  obtain ⟨setting, key, remainder⟩ := k
  obtain ⟨settingNe, keyNe, settingDotless, keyDotless⟩ := wf
  have settingFull : setting.toList.isEmpty = false := by simpa using settingNe
  have keyFull : key.toList.isEmpty = false := by simpa using keyNe
  unfold parse
  rw [toList_fullText, splitAtDot_append _ settingDotless]
  cases remainder with
  | none => simp [splitAtDot_of_dotless keyDotless, settingFull, keyFull]
  | some r => simp [splitAtDot_append _ keyDotless, settingFull, keyFull]

theorem wellFormed_of_split {s : String} {setting key : List Char} (remainder : Option String)
    (split : s.toList = setting ++ '.' :: (key ++
      match remainder with
      | none => []
      | some r => '.' :: r.toList))
    (settingDotless : '.' ∉ setting) (keyDotless : '.' ∉ key) (full : ¬(setting = [] ∨ key = [])) :
    (⟨.ofList setting, .ofList key, remainder⟩ : SettingsKey).WellFormed ∧
      s = fullText ⟨.ofList setting, .ofList key, remainder⟩ := by
  simp only [not_or] at full
  refine ⟨⟨by simpa using full.1, by simpa using full.2, by simpa using settingDotless,
    by simpa using keyDotless⟩, String.toList_inj.mp ?_⟩
  rw [split, toList_fullText, String.toList_ofList, String.toList_ofList]

theorem wellFormed_of_parse {s : String} {k : SettingsKey} (read : parse s = .ok k) :
    k.WellFormed ∧ s = k.fullText := by
  unfold parse at read
  rcases dotless_or_split s.toList with dotless | ⟨setting, rest, settingDotless, split⟩
  · simp [splitAtDot_of_dotless dotless] at read
  rw [split, splitAtDot_append _ settingDotless] at read
  -- the rest has no dot, or a second dot that ends the key
  rcases dotless_or_split rest with keyDotless | ⟨key, remainder, keyDotless, rfl⟩
  · simp only [splitAtDot_of_dotless keyDotless, Bool.or_eq_true, List.isEmpty_iff] at read
    split at read
    · cases read
    · cases read
      exact wellFormed_of_split none (by simpa using split) settingDotless keyDotless ‹_›
  · simp only [splitAtDot_append _ keyDotless, Bool.or_eq_true, List.isEmpty_iff] at read
    split at read
    · cases read
    · cases read
      exact wellFormed_of_split (some _) (by simpa using split) settingDotless keyDotless ‹_›

/-- A text reads as a key exactly when it is the key written out, with setting and key not
empty and free of dots. -/
theorem parse_eq_ok_iff (s : String) (k : SettingsKey) :
    parse s = .ok k ↔ k.WellFormed ∧ s = k.fullText :=
  ⟨wellFormed_of_parse, fun ⟨wf, written⟩ => written ▸ parse_fullText wf⟩

theorem fullText_of_remainder_none {k : SettingsKey} (none : k.remainder = none) :
    k.fullText = k.text := by
  simp [fullText, none]

theorem WellFormed.drop_remainder {k : SettingsKey} (wf : k.WellFormed) :
    ({ k with remainder := none } : SettingsKey).WellFormed :=
  ⟨wf.setting_ne, wf.key_ne, wf.setting_dotless, wf.key_dotless⟩

end SettingsKey

open SettingsKey in
/-- Settings keys read as they are written: a text reads as a key exactly when it is
`setting.key` or `setting.key.remainder` with a setting and a key that are not empty and hold no
dot. The key's text `setting.key` starts the text read and reads back as the key without its
remainder, and a key built from a setting and a key reads back from its text. -/
theorem settings_keys_read_as_written :
    (∀ s k, parse s = .ok k ↔ k.WellFormed ∧ s = k.fullText) ∧
    (∀ s k, parse s = .ok k →
      k.text.toList <+: s.toList ∧ parse k.text = .ok { k with remainder := none }) ∧
    (∀ setting key : String, ({ setting, key } : SettingsKey).WellFormed →
      parse ({ setting, key } : SettingsKey).text = .ok { setting, key }) := by
  refine ⟨parse_eq_ok_iff, fun s k read => ?_, fun setting key wf => ?_⟩
  · obtain ⟨wf, rfl⟩ := wellFormed_of_parse read
    refine ⟨?_, ?_⟩
    · unfold fullText
      cases k.remainder <;> simp [List.prefix_append]
    · have dropped := parse_fullText wf.drop_remainder
      rwa [fullText_of_remainder_none rfl] at dropped
  · have read := parse_fullText wf
    rwa [fullText_of_remainder_none rfl] at read

end NetConsole
