import NetConsole.Number.Binary64

/-! The quick way a JSON reader turns digits into a double: the nearest double to the leading
digits, multiplied or divided by the nearest double to one power of ten. The two roundings can
land one step from the double nearest to the decimal, and that step is what the reader answers. -/

namespace NetConsole

namespace Binary64

def negate (x : Binary64) : Binary64 := ofFields (!x.isNegative) x.exponentField x.fractionField

def zero (negative : Bool) : Binary64 := ofFields negative 0 0

def mul (x y : Binary64) : Binary64 :=
  let negative := x.isNegative != y.isNegative
  if x.isZero || y.isZero then zero negative
  else
    let (num, den) := scaledPair (x.significand * y.significand) (x.power + y.power) 1 0
    ofRatio negative num den

def div (x y : Binary64) : Binary64 :=
  let negative := x.isNegative != y.isNegative
  if x.isZero then zero negative
  else
    let (num, den) := scaledPair x.significand x.power y.significand y.power
    ofRatio negative num den

def powTen (k : Nat) : Binary64 := ofDecimal false 1 k

/-- The quick reader's double for `significand * 10^exponent`, none when it has none. Each
round divides by 1e308 and adds 308 to an exponent below -308, so `fuel` rounds past
`|exponent| / 308` are never needed. -/
def scaleByTen (significand : Nat) (exponent : Int) : Option Binary64 :=
  go (ofDecimal false significand 0) exponent (exponent.natAbs / 308 + 1)
where
  go (f : Binary64) (e : Int) : Nat → Option Binary64
    | 0 => some f
    | fuel + 1 =>
      if e.natAbs ≤ 308 then
        if 0 ≤ e then
          let g := f.mul (powTen e.toNat)
          if g.isFinite then some g else none
        else some (f.div (powTen e.natAbs))
      else if f.isZero then some f
      else if 0 ≤ e then none
      else go (f.div (powTen 308)) (e + 308) fuel

end Binary64

end NetConsole
