namespace NetConsole.Text

/-- Whether `n` lies in one of `ranges[lo:hi]`, which are ascending and disjoint; each step
halves the span, so `hi - lo` bounds the depth. -/
def inRangesBetween (ranges : Array (Nat × Nat)) (n : Nat) (lo hi : Nat) : Bool :=
  if _h : lo < hi then
    let mid := (lo + hi) / 2
    match ranges[mid]? with
    | none => false
    | some (a, b) =>
      if n < a then inRangesBetween ranges n lo mid
      else if b < n then inRangesBetween ranges n (mid + 1) hi
      else true
  else false
termination_by hi - lo

def inRanges (ranges : Array (Nat × Nat)) (n : Nat) : Bool :=
  inRangesBetween ranges n 0 ranges.size

end NetConsole.Text
