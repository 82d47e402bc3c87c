import BuildLog.Decimal.Shortest

/-! Written forms of binary floats. -/
namespace BuildLog.Decimal

/-- What a format decides: which positions of the leading digit are written without an
exponent, the least number of digits of an exponent, and the words for the special values. -/
structure Layout where
  leastPlain : Int
  mostPlain : Int
  exponentWidth : Nat
  infinity : String
  nan : String

/-- Seconds and scores: positional from 0.0001 up to 10 ^ 16. -/
def Layout.plain : Layout := ⟨-4, 15, 2, "inf", "nan"⟩

/-- Numbers inside JSON texts. -/
def Layout.json : Layout := { Layout.plain with infinity := "Infinity", nan := "NaN" }

def digitChars (n : Nat) : List Char := Nat.toDigits 10 n

def padded (width : Nat) (cs : List Char) : List Char :=
  List.replicate (width - cs.length) '0' ++ cs

/-- The exponent with its sign. -/
def Layout.exponentText (layout : Layout) (e : Int) : List Char :=
  (if e < 0 then '-' else '+') :: padded layout.exponentWidth (digitChars e.natAbs)

/-- Digits without trailing zeros, and the position of the first of them. -/
def Digits.leading (d : Digits) : List Char × Int :=
  let ds := digitChars d.digits
  ((ds.reverse.dropWhile (· == '0')).reverse, d.exponent + ds.length - 1)

def Layout.positional (ds : List Char) (position : Int) : List Char :=
  if position < 0 then
    '0' :: '.' :: List.replicate (-position - 1).toNat '0' ++ ds
  else
    let whole := position.toNat + 1
    let fraction := ds.drop whole
    ds.take whole ++ List.replicate (whole - ds.length) '0' ++
      '.' :: (if fraction.isEmpty then ['0'] else fraction)

def Layout.scientific (layout : Layout) (ds : List Char) (position : Int) : List Char :=
  (match ds with
    | [] => []
    | [d] => [d]
    | d :: rest => d :: '.' :: rest) ++ 'e' :: layout.exponentText position

def Layout.finite (layout : Layout) (d : Digits) : List Char :=
  let (ds, position) := d.leading
  if layout.leastPlain ≤ position && position ≤ layout.mostPlain then
    Layout.positional ds position
  else layout.scientific ds position

/-- The text of a float; a negative zero keeps its sign. -/
def Layout.text (layout : Layout) (x : Float) : String :=
  let bits : Nat := x.toBits.toNat
  let negative : Bool := signBit ≤ bits
  let exponent : Nat := (bits / fullMantissa) % (greatestExponent + 1)
  let fraction : Nat := bits % fullMantissa
  if exponent == greatestExponent && fraction != 0 then layout.nan
  else
    let sign := if negative then ['-'] else []
    if exponent == greatestExponent then String.ofList sign ++ layout.infinity
    else if exponent == 0 && fraction == 0 then String.ofList (sign ++ ['0', '.', '0'])
    else
      let (mantissa, power) :=
        if exponent == 0 then (fraction, (-1074 : Int))
        else (fullMantissa + fraction, (exponent : Int) - 1075)
      let interval := Interval.of mantissa power (fraction == 0 && 1 < exponent)
      String.ofList (sign ++ layout.finite interval.shortest)

end BuildLog.Decimal
