/-! The B-tree of order 6 a dictionary keeps its entries in. An entry goes down past the keys it
is not less than and replaces the first key it equals. Under a total order the tree reads as the
entries sorted by key; the order of signatures is not transitive, and then the tree is what fixes
the order. -/

namespace NetConsole.Bus

inductive KeyTree (κ ν : Type) where
  | leaf (entries : List (κ × ν))
  | branch (entries : List (κ × ν)) (children : List (KeyTree κ ν))
  deriving Inhabited

namespace KeyTree

variable {κ ν : Type}

def capacity : Nat := 11

inductive Slot where
  | entry (i : Nat)
  | edge (i : Nat)

def slot (cmp : κ → κ → Ordering) (key : κ) : List (κ × ν) → Slot
  | [] => .edge 0
  | (k, _) :: rest =>
    match cmp key k with
    | .lt => .edge 0
    | .eq => .entry 0
    | .gt =>
      match slot cmp key rest with
      | .entry i => .entry (i + 1)
      | .edge i => .edge (i + 1)

def replaceValue (v : ν) : Nat → List (κ × ν) → List (κ × ν)
  | _, [] => []
  | 0, (k, _) :: rest => (k, v) :: rest
  | i + 1, e :: rest => e :: replaceValue v i rest

/-- Where a full node splits for an entry arriving at edge `i`: the position of the entry that
rises, whether the newcomer joins the left half, and its edge there. The newcomer and the middle
entry leave halves of five and six entries. -/
def splitPoint (i : Nat) : Nat × Bool × Nat :=
  if i < 5 then (4, true, i)
  else if i = 5 then (5, true, 5)
  else if i = 6 then (5, false, 0)
  else (6, false, i - 7)

inductive Growth (κ ν : Type) where
  | fits (node : KeyTree κ ν)
  | splits (left : KeyTree κ ν) (middle : κ × ν) (right : KeyTree κ ν)

def leafPut (entries : List (κ × ν)) (i : Nat) (e : κ × ν) : Growth κ ν :=
  if entries.length < capacity then .fits (.leaf (entries.insertIdx i e))
  else
    let (m, toLeft, j) := splitPoint i
    match entries.drop m with
    | middle :: right =>
      let left := entries.take m
      if toLeft then .splits (.leaf (left.insertIdx j e)) middle (.leaf right)
      else .splits (.leaf left) middle (.leaf (right.insertIdx j e))
    | [] => .fits (.leaf (entries.insertIdx i e))

def branchPut (entries : List (κ × ν)) (children : List (KeyTree κ ν)) (i : Nat) (e : κ × ν)
    (c : KeyTree κ ν) : Growth κ ν :=
  if entries.length < capacity then
    .fits (.branch (entries.insertIdx i e) (children.insertIdx (i + 1) c))
  else
    let (m, toLeft, j) := splitPoint i
    match entries.drop m with
    | middle :: right =>
      let left := entries.take m
      let leftChildren := children.take (m + 1)
      let rightChildren := children.drop (m + 1)
      if toLeft then
        .splits (.branch (left.insertIdx j e) (leftChildren.insertIdx (j + 1) c)) middle
          (.branch right rightChildren)
      else
        .splits (.branch left leftChildren) middle
          (.branch (right.insertIdx j e) (rightChildren.insertIdx (j + 1) c))
    | [] => .fits (.branch (entries.insertIdx i e) (children.insertIdx (i + 1) c))

mutual

def put (cmp : κ → κ → Ordering) (e : κ × ν) : KeyTree κ ν → Growth κ ν
  | .leaf entries =>
    match slot cmp e.1 entries with
    | .entry i => .fits (.leaf (replaceValue e.2 i entries))
    | .edge i => leafPut entries i e
  | .branch entries children =>
    match slot cmp e.1 entries with
    | .entry i => .fits (.branch (replaceValue e.2 i entries) children)
    | .edge i =>
      match putChild cmp e i children with
      | some (.fits child) => .fits (.branch entries (children.set i child))
      | some (.splits left middle right) => branchPut entries (children.set i left) i middle right
      | none => .fits (.branch entries children)

def putChild (cmp : κ → κ → Ordering) (e : κ × ν) : Nat → List (KeyTree κ ν) → Option (Growth κ ν)
  | _, [] => none
  | 0, c :: _ => some (put cmp e c)
  | i + 1, _ :: cs => putChild cmp e i cs

end

def insert (cmp : κ → κ → Ordering) (t : KeyTree κ ν) (k : κ) (v : ν) : KeyTree κ ν :=
  match put cmp (k, v) t with
  | .fits t => t
  | .splits left middle right => .branch [middle] [left, right]

mutual

def toList : KeyTree κ ν → List (κ × ν)
  | .leaf entries => entries
  | .branch entries children => weave entries children

def weave : List (κ × ν) → List (KeyTree κ ν) → List (κ × ν)
  | entries, [] => entries
  | [], c :: cs => toList c ++ weave [] cs
  | e :: entries, c :: cs => toList c ++ e :: weave entries cs

end

def ofPairs (cmp : κ → κ → Ordering) (pairs : List (κ × ν)) : List (κ × ν) :=
  (pairs.foldl (fun (t : KeyTree κ ν) (k, v) => t.insert cmp k v) (.leaf [])).toList

end KeyTree

end NetConsole.Bus
