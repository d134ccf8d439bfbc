namespace NetConsole

def KeysOrdered (fields : List (String × List String)) : Prop :=
  fields.Pairwise fun a b => a.1 < b.1

structure Form where
  fields : List (String × List String) := []
  ordered : KeysOrdered fields := by exact List.Pairwise.nil

instance : Inhabited Form := ⟨{}⟩

namespace Form

def appendTo (key value : String) : List (String × List String) → List (String × List String)
  | [] => [(key, [value])]
  | (k, vs) :: rest =>
    if k == key then (k, vs ++ [value]) :: rest
    else if key < k then (key, [value]) :: (k, vs) :: rest
    else (k, vs) :: appendTo key value rest

theorem key_mem_appendTo {key value : String} {fields : List (String × List String)}
    {w : String × List String} (member : w ∈ appendTo key value fields) :
    w.1 = key ∨ ∃ v ∈ fields, v.1 = w.1 := by
  induction fields with
  | nil => simp_all [appendTo]
  | cons v rest ih =>
      obtain ⟨k, vs⟩ := v
      simp only [appendTo] at member
      split at member
      · rcases List.mem_cons.mp member with rfl | member
        · exact .inr ⟨(k, vs), List.mem_cons_self, rfl⟩
        · exact .inr ⟨w, List.mem_cons_of_mem _ member, rfl⟩
      · split at member
        · rcases List.mem_cons.mp member with rfl | member
          · exact .inl rfl
          · exact .inr ⟨w, member, rfl⟩
        · rcases List.mem_cons.mp member with rfl | member
          · exact .inr ⟨(k, vs), List.mem_cons_self, rfl⟩
          · rcases ih member with same | ⟨x, present, same⟩
            · exact .inl same
            · exact .inr ⟨x, List.mem_cons_of_mem _ present, same⟩

theorem appendTo_ordered (key value : String) {fields : List (String × List String)}
    (ordered : KeysOrdered fields) : KeysOrdered (appendTo key value fields) := by
  induction fields with
  | nil => simp [KeysOrdered, appendTo]
  | cons v rest ih =>
      obtain ⟨k, vs⟩ := v
      simp only [KeysOrdered, List.pairwise_cons] at ordered
      obtain ⟨head, tail⟩ := ordered
      simp only [appendTo]
      split
      · exact List.pairwise_cons.mpr ⟨head, tail⟩
      · split
        · rename_i below
          refine List.pairwise_cons.mpr ⟨fun w member => ?_, List.pairwise_cons.mpr ⟨head, tail⟩⟩
          rcases List.mem_cons.mp member with rfl | member
          · exact below
          · exact String.lt_trans below (head w member)
        · -- the key goes after `k`, which is below it
          rename_i differ notBelow
          have above : k < key := by
            simp only [beq_iff_eq] at differ
            grind
          refine List.pairwise_cons.mpr ⟨fun w member => ?_, ih tail⟩
          rcases key_mem_appendTo member with same | ⟨x, present, same⟩
          · exact same ▸ above
          · exact same ▸ head x present

def append (form : Form) (key value : String) : Form :=
  ⟨appendTo key value form.fields, appendTo_ordered key value form.ordered⟩

def ofPairs (pairs : List (String × String)) : Form :=
  pairs.foldl (fun form (k, v) => form.append k v) {}

def getAll (form : Form) (key : String) : List String := (form.fields.lookup key).getD []

def last? (form : Form) (key : String) : Option String := (form.getAll key).getLast?

end Form

end NetConsole
