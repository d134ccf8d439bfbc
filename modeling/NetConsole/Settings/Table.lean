namespace NetConsole

abbrev Table (α : Type) := List (String × α)

namespace Table

variable {α : Type}

def get? (t : Table α) (name : String) : Option α := t.lookup name

def contains (t : Table α) (name : String) : Bool := (t.get? name).isSome

def insert (name : String) (a : α) : Table α → Table α
  | [] => [(name, a)]
  | (n, b) :: rest => if n == name then (n, a) :: rest else (n, b) :: insert name a rest

def erase (name : String) (t : Table α) : Table α := t.filter fun e => e.1 != name

def modify (name : String) (f : α → α) : Table α → Table α
  | [] => []
  | (n, b) :: rest => if n == name then (n, f b) :: modify name f rest else (n, b) :: modify name f rest

def names (t : Table α) : List String := t.map (·.1)

@[simp] theorem get?_nil (name : String) : get? ([] : Table α) name = none := rfl

theorem get?_cons (n name : String) (a : α) (t : Table α) :
    get? ((n, a) :: t) name = if name == n then some a else get? t name := by
  simp only [get?, List.lookup_cons]
  split <;> simp_all

@[simp] theorem get?_insert_self (name : String) (a : α) (t : Table α) :
    get? (insert name a t) name = some a := by
  induction t with
  | nil => simp only [insert, get?_cons, beq_self_eq_true, ↓reduceIte]
  | cons e rest ih =>
    obtain ⟨n, b⟩ := e
    by_cases h : n = name
    · subst h; simp only [insert, get?_cons, beq_self_eq_true, ↓reduceIte]
    · have h' : (n == name) = false := beq_eq_false_iff_ne.mpr h
      have h'' : (name == n) = false := beq_eq_false_iff_ne.mpr fun e => h e.symm
      simp [insert, h', get?_cons, h'', ih]

theorem get?_insert_of_ne {name other : String} (ne : other ≠ name) (a : α) (t : Table α) :
    get? (insert name a t) other = get? t other := by
  induction t with
  | nil =>
    have h : (other == name) = false := beq_eq_false_iff_ne.mpr ne
    simp [insert, get?_cons, h]
  | cons e rest ih =>
    obtain ⟨n, b⟩ := e
    by_cases h : n = name
    · subst h
      have h' : (other == n) = false := beq_eq_false_iff_ne.mpr ne
      simp [insert, get?_cons, h']
    · have h' : (n == name) = false := beq_eq_false_iff_ne.mpr h
      simp [insert, h', get?_cons, ih]

@[simp] theorem get?_erase_self (name : String) (t : Table α) : get? (erase name t) name = none := by
  induction t with
  | nil => rfl
  | cons e rest ih =>
    obtain ⟨n, b⟩ := e
    by_cases h : n = name
    · subst h
      simp only [erase, List.filter_cons, bne_self_eq_false, Bool.false_eq_true, ↓reduceIte]
      simpa [erase] using ih
    · have h' : (name == n) = false := beq_eq_false_iff_ne.mpr fun e => h e.symm
      simp only [erase, List.filter_cons, bne_iff_ne, ne_eq, h, not_false_eq_true,
        ↓reduceIte]
      rw [get?_cons, h']
      simpa [erase] using ih

theorem get?_erase_of_ne {name other : String} (ne : other ≠ name) (t : Table α) :
    get? (erase name t) other = get? t other := by
  induction t with
  | nil => rfl
  | cons e rest ih =>
    obtain ⟨n, b⟩ := e
    by_cases h : n = name
    · subst h
      have h' : (other == n) = false := beq_eq_false_iff_ne.mpr ne
      simp only [erase, List.filter_cons, bne_self_eq_false, Bool.false_eq_true, ↓reduceIte]
      rw [get?_cons, h']
      simpa [erase] using ih
    · simp only [erase, List.filter_cons, bne_iff_ne, ne_eq, h, not_false_eq_true,
        ↓reduceIte]
      rw [get?_cons, get?_cons]
      split
      · rfl
      · simpa [erase] using ih

end Table

end NetConsole
