namespace NetConsole

structure Binary64 where
  bits : UInt64
  deriving Repr, Inhabited, BEq, DecidableEq

namespace Binary64

def fractionField (x : Binary64) : Nat := x.bits.toNat % Nat.pow 2 52

def exponentField (x : Binary64) : Nat := (x.bits.toNat / Nat.pow 2 52) % Nat.pow 2 11

def isNegative (x : Binary64) : Bool := Nat.pow 2 63 ≤ x.bits.toNat

def isFinite (x : Binary64) : Bool := x.exponentField != 2047

def isZero (x : Binary64) : Bool := x.exponentField == 0 && x.fractionField == 0

def isNaN (x : Binary64) : Bool := x.exponentField == 2047 && x.fractionField != 0

def magnitude (x : Binary64) : Nat := x.bits.toNat % Nat.pow 2 63

/-- The order of the numbers two words stand for: the two zeros are equal, and a NaN is
unordered, which a caller that needs an answer takes as equal. -/
def compareValue (a b : Binary64) : Ordering :=
  if a.isNaN || b.isNaN || (a.isZero && b.isZero) then .eq
  else
    match a.isNegative, b.isNegative with
    | false, false => compare a.magnitude b.magnitude
    | true, true => compare b.magnitude a.magnitude
    | false, true => .gt
    | true, false => .lt

def significand (x : Binary64) : Nat :=
  if x.exponentField = 0 then x.fractionField else Nat.pow 2 52 + x.fractionField

def power (x : Binary64) : Int :=
  if x.exponentField = 0 then -1074 else (x.exponentField : Int) - 1075

/-- The neighbour below is half as far as the neighbour above: the significand is a power of
two and not the least normal one. -/
def narrowBelow (x : Binary64) : Bool := x.fractionField == 0 && x.exponentField > 1

def ofFields (negative : Bool) (exponentField fraction : Nat) : Binary64 :=
  ⟨UInt64.ofNat ((if negative then Nat.pow 2 63 else 0) + exponentField * Nat.pow 2 52 + fraction)⟩

def scaledPair (a : Nat) (i : Int) (b : Nat) (j : Int) : Nat × Nat :=
  (a * Nat.pow 2 (i - j).toNat, b * Nat.pow 2 (j - i).toNat)

def roundHalfEven (num den : Nat) : Nat :=
  let q := num / den
  let r := num % den
  if 2 * r < den then q
  else if 2 * r > den then q + 1
  else if q % 2 = 0 then q
  else q + 1

/-- The largest `t` with `2^t ≤ num / den`, for positive `num` and `den`: the two binary
logarithms give it up to one step, which one exact comparison settles. -/
def binaryLog (num den : Nat) : Int :=
  let guess : Int := (num.log2 : Int) - den.log2
  let (a, b) := scaledPair den guess num 0
  if a ≤ b then guess else guess - 1

def ofRatio (negative : Bool) (num den : Nat) : Binary64 :=
  let t := binaryLog num den
  let q : Int := max (t - 52) (-1074)
  -- m = round(num / (den * 2^q))
  let (n, d) := scaledPair num 0 den q
  let m := roundHalfEven n d
  let (m, q) := if m = Nat.pow 2 53 then (Nat.pow 2 52, q + 1) else (m, q)
  if q > 971 then ofFields negative 2047 0
  else if m < Nat.pow 2 52 then ofFields negative 0 m
  else ofFields negative (q + 1075).toNat (m - Nat.pow 2 52)

def ofDecimal (negative : Bool) (mantissa : Nat) (exponent : Int) : Binary64 :=
  if mantissa = 0 then ofFields negative 0 0
  else ofRatio negative (mantissa * Nat.pow 10 exponent.toNat) (Nat.pow 10 (-exponent).toNat)

end Binary64

end NetConsole
