import BuildLog.Decimal.Shortest

/-! The binary float nearest to a rational. Of two floats equally near, the one with the even
mantissa is taken; beyond the greatest float lies infinity. -/
namespace BuildLog.Decimal

/-- The quotient to the nearest integer, a half going to the even neighbour. -/
def roundDiv (num den : Nat) : Nat :=
  let below := num / den
  let twice := 2 * (num % den)
  if den < twice || (twice == den && below % 2 == 1) then below + 1 else below

/-- The quotient of a ratio and a power of two, rounded. -/
def Ratio.overPower (r : Ratio) (e : Int) : Nat :=
  if 0 ≤ e then roundDiv r.num (r.den * Nat.pow 2 e.toNat)
  else roundDiv (r.num * Nat.pow 2 (-e).toNat) r.den

/-- The exponent at which the ratio is a mantissa of 53 bits, or the least exponent of all. -/
def Ratio.unit (r : Ratio) : Int :=
  let e := (r.num.log2 : Int) - r.den.log2 - 53
  let short : Bool := r.lt (Ratio.scaled 1 2 (e + 53))
  max (-1074) (if short then e else e + 1)

/-- The bits of the float nearest to a positive ratio. -/
def Ratio.floatBits (r : Ratio) : Nat :=
  let e := r.unit
  let m := r.overPower e
  let (m, e) := if m == 2 * fullMantissa then (fullMantissa, e + 1) else (m, e)
  if m < fullMantissa then m
  else
    let biased := (e + 1075).toNat
    if greatestExponent ≤ biased then infinityBits
    else biased * fullMantissa + (m - fullMantissa)

def ofSignBits (negative : Bool) (bits : Nat) : Float :=
  Float.ofBits (UInt64.ofNat (if negative then signBit + bits else bits))

/-- The float nearest to `mantissa * 10 ^ exponent`. Exponents so large or so small that the
answer is infinity or zero are settled without computing the power. -/
def toFloat (negative : Bool) (mantissa : Nat) (exponent : Int) : Float :=
  let position := exponent + (mantissa.log2 : Int) * 30103 / 100000
  if mantissa == 0 || position < -400 then ofSignBits negative 0
  else if 400 < position then ofSignBits negative infinityBits
  else ofSignBits negative (Ratio.scaled mantissa 10 exponent).floatBits

/-- The float nearest to an integer, if there is a finite one. -/
def ofInt? (n : Int) : Option Float :=
  let x := toFloat (n < 0) n.natAbs 0
  if x.isFinite then some x else none

end BuildLog.Decimal
