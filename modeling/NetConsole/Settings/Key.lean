import NetConsole.Error

namespace NetConsole

structure SettingsKey where
  setting : String
  key : String
  remainder : Option String := none
  deriving DecidableEq, Repr, Inhabited

namespace SettingsKey

def splitAtDot (cs : List Char) : Option (List Char × List Char) :=
  match cs.span (· != '.') with
  | (before, _ :: after) => some (before, after)
  | (_, []) => none

def parse (raw : String) : Except Error SettingsKey :=
  match splitAtDot raw.toList with
  | none => .error (.invalidSettingsKey raw)
  | some (setting, rest) =>
    let (key, remainder) :=
      match splitAtDot rest with
      | some (key, remainder) => (key, some (String.ofList remainder))
      | none => (rest, none)
    if setting.isEmpty || key.isEmpty then .error (.invalidSettingsKey raw)
    else .ok ⟨String.ofList setting, String.ofList key, remainder⟩

def text (k : SettingsKey) : String := k.setting ++ "." ++ k.key

def lt (a b : SettingsKey) : Bool :=
  a.setting < b.setting || (a.setting == b.setting && a.key < b.key)

theorem lt_iff {a b : SettingsKey} :
    lt a b = true ↔ a.setting < b.setting ∨ (a.setting = b.setting ∧ a.key < b.key) := by
  simp [lt]

private theorem string_trichotomy (a b : String) : a < b ∨ a = b ∨ b < a := by
  by_cases below : a < b
  · exact .inl below
  · by_cases above : b < a
    · exact .inr (.inr above)
    · exact .inr (.inl (String.le_antisymm (String.not_lt.mp above) (String.not_lt.mp below)))

theorem lt_irrefl (a : SettingsKey) : lt a a = false := by
  simp [lt]

theorem lt_of_same {a b c : SettingsKey} (setting : a.setting = b.setting) (key : a.key = b.key) :
    lt a c = lt b c := by
  simp [lt, setting, key]

theorem lt_trans {a b c : SettingsKey} (first : lt a b = true) (second : lt b c = true) :
    lt a c = true := by
  rw [lt_iff] at first second ⊢
  rcases first with below | ⟨same, below⟩ <;> rcases second with below' | ⟨same', below'⟩
  · exact .inl (String.lt_trans below below')
  · exact .inl (same' ▸ below)
  · exact .inl (same ▸ below')
  · exact .inr ⟨same.trans same', String.lt_trans below below'⟩

theorem lt_trichotomy (a b : SettingsKey) :
    lt a b = true ∨ (a.setting = b.setting ∧ a.key = b.key) ∨ lt b a = true := by
  simp only [lt_iff]
  rcases string_trichotomy a.setting b.setting with below | same | above
  · exact .inl (.inl below)
  · rcases string_trichotomy a.key b.key with below | same' | above
    · exact .inl (.inr ⟨same, below⟩)
    · exact .inr (.inl ⟨same, same'⟩)
    · exact .inr (.inr (.inr ⟨same.symm, above⟩))
  · exact .inr (.inr (.inl above))

end SettingsKey

namespace Setting

def connection : String := "connection"
def wifi : String := "802-11-wireless"
def wifiSecurity : String := "802-11-wireless-security"
def ipv4 : String := "ipv4"
def ipv6 : String := "ipv6"

end Setting

end NetConsole
