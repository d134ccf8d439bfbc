import NetConsole.Number.Binary64

namespace NetConsole

structure Decimal where
  digits : Nat
  exponent : Int
  deriving Repr, Inhabited, BEq, DecidableEq

namespace Decimal

def normalize (d : Decimal) : Decimal :=
  go d.digits d.exponent d.digits
where
  go (digits : Nat) (exponent : Int) : Nat → Decimal
    | 0 => ⟨digits, exponent⟩
    | fuel + 1 =>
      if digits ≠ 0 ∧ digits % 10 = 0 then go (digits / 10) (exponent + 1) fuel
      else ⟨digits, exponent⟩

def decimalDigits (n : Nat) : List Char := (toString n).toList

/-- A decimal in positional notation, never with an exponent: trailing zeros for a positive
exponent, a point inside or zeros after `0.` for a negative one. -/
def positional (d : Decimal) : String :=
  let ds := decimalDigits d.digits
  if 0 ≤ d.exponent then
    String.ofList (ds ++ List.replicate d.exponent.toNat '0')
  else
    let shift := (-d.exponent).toNat
    if shift < ds.length then
      String.ofList (ds.take (ds.length - shift) ++ '.' :: ds.drop (ds.length - shift))
    else
      String.ofList ('0' :: '.' :: List.replicate (shift - ds.length) '0' ++ ds)

end Decimal

namespace Binary64

def compareScaled (a : Nat) (i : Int) (b : Nat) (j : Int) : Ordering :=
  compare (a * Nat.pow 10 i.toNat * Nat.pow 2 (-j).toNat) (b * Nat.pow 2 j.toNat * Nat.pow 10 (-i).toNat)

def readsBack (x : Binary64) (d : Decimal) : Bool :=
  let m := x.significand
  let lo := if x.narrowBelow then 4 * m - 1 else 4 * m - 2
  let hi := 4 * m + 2
  let closed := m % 2 == 0
  let cl := compareScaled d.digits d.exponent lo (x.power - 2)
  let ch := compareScaled d.digits d.exponent hi (x.power - 2)
  (cl == .gt || (closed && cl == .eq)) && (ch == .lt || (closed && ch == .eq))

def scaleFrom (m : Nat) (q : Int) : Nat → Int → Int
  | 0, k => k
  | fuel + 1, k => if compareScaled 1 k m q == .gt then k else scaleFrom m q fuel (k + 1)

def scale (m : Nat) (q : Int) : Int :=
  -- 10^-400 lies below every positive word and 10^310 above every finite one
  scaleFrom m q 720 (-400)

/-- The decimal with `n` significant digits (grid `10^(k - n)`) of the two neighbours of the
word on that grid that reads back, the nearer if both do. -/
def onGrid (x : Binary64) (k : Int) (n : Nat) : Option Decimal :=
  let g := k - n
  -- floor of the value divided by the grid step
  let (num, den) := (x.significand * Nat.pow 2 x.power.toNat * Nat.pow 10 (-g).toNat,
    Nat.pow 2 (-x.power).toNat * Nat.pow 10 g.toNat)
  let below : Decimal := ⟨num / den, g⟩
  let above : Decimal := ⟨num / den + 1, g⟩
  match x.readsBack below, x.readsBack above with
  | true, true =>
    -- twice the value against the sum of the two neighbours; a tie goes up
    if 2 * num < (2 * (num / den) + 1) * den then some below else some above
  | true, false => some below
  | false, true => some above
  | false, false => none

def searchGrids (x : Binary64) (k : Int) : Nat → Nat → Option Decimal
  | 0, _ => none
  | fuel + 1, n =>
    match onGrid x k n with
    | some d => some d
    | none => searchGrids x k fuel (n + 1)

def exactDecimal (m : Nat) (q : Int) : Decimal :=
  if 0 ≤ q then ⟨m * Nat.pow 2 q.toNat, 0⟩ else ⟨m * Nat.pow 5 (-q).toNat, q⟩

def shortest (x : Binary64) : Decimal :=
  if x.isZero then ⟨0, 0⟩
  else
    let k := scale x.significand x.power
    match searchGrids x k 17 1 with
    | some d => d.normalize
    | none => (exactDecimal x.significand x.power).normalize

/-- A finite word in positional notation with its shortest digits: `-0` for negative zero,
`inf` and `NaN` for the rest. -/
def positional (x : Binary64) : String :=
  if !x.isFinite then
    if x.fractionField = 0 then (if x.isNegative then "-inf" else "inf") else "NaN"
  else
    (if x.isNegative then "-" else "") ++ x.shortest.positional

def isIntegral (x : Binary64) : Bool := x.isFinite && (x.isZero || 0 ≤ x.shortest.exponent)

end Binary64

end NetConsole
