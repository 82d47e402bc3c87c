/-! The shortest decimal that reads back as a given binary float. A finite float is
`mantissa * 2 ^ exponent`; a decimal reads back as it if it lies in the interval that rounds
to it, whose ends belong to it when the mantissa is even. -/
namespace BuildLog.Decimal

/-- The least mantissa of full length, and the unit of the exponent in the bits of a float. -/
def fullMantissa : Nat := Nat.pow 2 52

/-- The bit that a negative float has set. -/
def signBit : Nat := Nat.pow 2 63

/-- The exponent field of infinity and of what is no number. -/
def greatestExponent : Nat := 2047

def infinityBits : Nat := greatestExponent * fullMantissa

def nanBits : Nat := infinityBits + fullMantissa / 2

/-- A positive rational. -/
structure Ratio where
  num : Nat
  den : Nat

/-- `n * base ^ k` -/
def Ratio.scaled (n base : Nat) (k : Int) : Ratio :=
  if 0 ≤ k then ⟨n * Nat.pow base k.toNat, 1⟩ else ⟨n, Nat.pow base (-k).toNat⟩

def Ratio.le (a b : Ratio) : Bool := a.num * b.den ≤ b.num * a.den

def Ratio.lt (a b : Ratio) : Bool := a.num * b.den < b.num * a.den

/-- The position of the leading decimal digit: `10 ^ k ≤ r < 10 ^ (k + 1)`. -/
def Ratio.magnitude (r : Ratio) : Int :=
  let low := ((r.num.log2 : Int) - r.den.log2 - 1) * 30103 / 100000
  let up (k : Int) : Int := if (Ratio.scaled 1 10 (k + 1)).le r then k + 1 else k
  up (up (up low))

/-- `digits * 10 ^ exponent` -/
structure Digits where
  digits : Nat
  exponent : Int

/-- The floats that round to `mantissa * 2 ^ exponent`, in quarters of its unit. -/
structure Interval where
  low : Ratio
  value : Ratio
  high : Ratio
  closed : Bool

def Interval.has (i : Interval) (r : Ratio) : Bool :=
  if i.closed then i.low.le r && r.le i.high else i.low.lt r && r.lt i.high

/-- The lower neighbour of a power of two is nearer than the upper one. -/
def Interval.of (mantissa : Nat) (exponent : Int) (power : Bool) : Interval where
  low := Ratio.scaled (4 * mantissa - (if power then 1 else 2)) 2 (exponent - 2)
  value := Ratio.scaled (4 * mantissa) 2 (exponent - 2)
  high := Ratio.scaled (4 * mantissa + 2) 2 (exponent - 2)
  closed := mantissa % 2 == 0

/-- The points of the grid `10 ^ k` next to the value that read back, the nearer first. -/
def Interval.onGrid (i : Interval) (k : Int) : Option Digits :=
  let unit := Ratio.scaled 1 10 k
  let below := i.value.num * unit.den / (i.value.den * unit.num)
  let point (d : Nat) : Ratio := ⟨d * unit.num, unit.den⟩
  let twice : Ratio := ⟨2 * i.value.num, i.value.den⟩
  let middle := point (2 * below + 1)
  let upFirst := middle.lt twice || (middle.le twice && below % 2 == 1)
  let (first, second) := if upFirst then (below + 1, below) else (below, below + 1)
  if i.has (point first) then some ⟨first, k⟩
  else if i.has (point second) then some ⟨second, k⟩
  else none

def Interval.search (i : Interval) (k : Int) : Nat → Digits
  | 0 => ⟨i.value.num / i.value.den, 0⟩
  | more + 1 =>
    match i.onGrid k with
    | some found => found
    | none => i.search (k - 1) more

/-- Seventeen digits always suffice. -/
def Interval.shortest (i : Interval) : Digits := i.search i.value.magnitude 17

end BuildLog.Decimal
