import BuildLog.Decimal.Rounding
import Mathlib.Tactic.Ring

/-! Integers beyond all floats. An integer is rounded to a mantissa of 53 bits; it has no finite
float next to it from the middle between the greatest float and the next power of two on. -/
namespace BuildLog.Decimal

open Float.Model (Format UnpackedFloat)
open Float.Model.UnpackedFloat (unpack pack unpackExponent unpackMantissa packedZero
  unpackExponent_packComponents)

variable {b : BitVec Format.binary64.numBits}

theorem exponent_pack_finite {sign : Float.Model.UnpackedFloat.Sign} {mantissa : Nat}
    {exponent : Int} (positive : 0 < mantissa) (small : (exponent + 1023 + 52).toNat < 2047) :
    unpackExponent (pack Format.binary64 (.finite sign mantissa exponent positive)) ≠ -1#11 := by
  have room : ¬2 ^ Format.binary64.exponentBits ≤ (exponent + Format.binary64.exponentBias +
      Format.binary64.mantissaBitsWithoutImplicit).toNat + 1 := by
    change ¬2048 ≤ (exponent + 1023 + 52).toNat + 1
    omega
  unfold pack
  dsimp only
  rw [if_neg room]
  split
  · rw [unpackExponent_packComponents, ne_eq, ← BitVec.toNat_inj, BitVec.toNat_ofNat]
    change ¬(exponent + 1023 + 52).toNat % 2048 = 2047
    omega
  · rw [unpackExponent_packComponents]
    decide

/-- The greatest exponent stands for infinity and for what is no number, and is packed again. -/
theorem unpack_greatest (greatest : unpackExponent b = -1#11) :
    (unpack Format.binary64 b).isFinite = false ∧
      unpackExponent (pack Format.binary64 (unpack Format.binary64 b)) = -1#11 := by
  unfold unpack
  dsimp only
  rw [if_pos greatest]
  by_cases empty : unpackMantissa b = 0#52
  · rw [if_pos empty]
    exact ⟨rfl, unpackExponent_packComponents⟩
  · rw [if_neg empty]
    exact ⟨rfl, unpackExponent_packComponents⟩

/-- All others stand for zero or for a mantissa, and packing does not reach the greatest. -/
theorem unpack_other (other : unpackExponent b ≠ -1#11) :
    (unpack Format.binary64 b).isFinite = true ∧
      unpackExponent (pack Format.binary64 (unpack Format.binary64 b)) ≠ -1#11 := by
  have bias : (Format.binary64.exponentBias : Int) = 1023 := rfl
  have bits : (Format.binary64.mantissaBitsWithoutImplicit : Int) = 52 := rfl
  unfold unpack
  dsimp only
  rw [if_neg other]
  by_cases least : unpackExponent b = 0#11
  · rw [if_pos least]
    by_cases empty : unpackMantissa b = 0#52
    · rw [dif_pos empty]
      refine ⟨rfl, ?_⟩
      unfold pack packedZero
      rw [unpackExponent_packComponents]
      decide
    · rw [dif_neg empty]
      refine ⟨rfl, exponent_pack_finite _ ?_⟩
      rw [least]
      decide
  · rw [if_neg least]
    refine ⟨rfl, exponent_pack_finite _ ?_⟩
    have within := (unpackExponent b).isLt
    have below : (unpackExponent b).toNat ≠ 2047 := fun same => other (BitVec.toNat_inj.mp same)
    change _ < 2 ^ 11 at within
    omega

theorem unpack_isFinite :
    (unpack Format.binary64 b).isFinite = true ↔ unpackExponent b ≠ -1#11 := by
  by_cases greatest : unpackExponent b = -1#11
  · refine iff_of_false ?_ (not_not_intro greatest)
    exact Bool.eq_false_iff.mp (unpack_greatest greatest).1
  · exact iff_of_true (unpack_other greatest).1 greatest

theorem exponent_pack_unpack :
    unpackExponent (pack Format.binary64 (unpack Format.binary64 b)) = -1#11 ↔
      unpackExponent b = -1#11 := by
  by_cases greatest : unpackExponent b = -1#11
  · exact iff_of_true (unpack_greatest greatest).2 greatest
  · exact iff_of_false (unpack_other greatest).2 greatest

theorem unpackExponent_ofNat {n : Nat} (small : n < 2 ^ 64) :
    (@unpackExponent Format.binary64 (UInt64.ofNat n).toBitVec).toNat =
      n / 2 ^ 52 % 2 ^ 11 := by
  have kept : n % 2 ^ 64 = n := Nat.mod_eq_of_lt small
  simp only [Nat.reducePow] at kept
  simp [unpackExponent, BitVec.extractLsb, Nat.shiftRight_eq_div_pow, kept]

theorem ofBits_isFinite {n : Nat} (small : n < 2 ^ 64) :
    (Float.ofBits (UInt64.ofNat n)).isFinite = true ↔ n / 2 ^ 52 % 2 ^ 11 ≠ 2047 := by
  change (unpack Format.binary64 (pack Format.binary64 (unpack Format.binary64
    (UInt64.ofNat n).toBitVec))).isFinite = true ↔ _
  rw [unpack_isFinite, ne_eq, exponent_pack_unpack, ← BitVec.toNat_inj,
    unpackExponent_ofNat small]
  rfl

theorem ofSignBits_isFinite (negative : Bool) {bits : Nat} (within : bits ≤ infinityBits) :
    (ofSignBits negative bits).isFinite = true ↔ bits < infinityBits := by
  have infinity : infinityBits = 2047 * 2 ^ 52 := rfl
  have sign : signBit = 2 ^ 63 := rfl
  rw [infinity] at within ⊢
  unfold ofSignBits
  cases negative with
  | false =>
    rw [if_neg Bool.false_ne_true, ofBits_isFinite (by omega)]
    omega
  | true =>
    rw [if_pos rfl, ofBits_isFinite (by omega)]
    omega

theorem roundDiv_le (num den : Nat) : roundDiv num den ≤ num / den + 1 := by
  unfold roundDiv
  dsimp only
  split <;> omega

theorem le_roundDiv (num den : Nat) : num / den ≤ roundDiv num den := by
  unfold roundDiv
  dsimp only
  split <;> omega

/-- From the middle between an odd number and the next one on, it is rounded up. -/
theorem lt_roundDiv_iff {num den q : Nat} (positive : 0 < den) (odd : q % 2 = 1) :
    q < roundDiv num den ↔ (2 * q + 1) * den ≤ 2 * num := by
  have whole : den * (num / den) + num % den = num := Nat.div_add_mod num den
  have part : num % den < den := Nat.mod_lt num positive
  have top := roundDiv_le num den
  have bottom := le_roundDiv num den
  have expand : (2 * q + 1) * den = 2 * (den * q) + den := by ring
  rw [expand]
  rcases Nat.lt_trichotomy (num / den) q with less | same | more
  · have gap : den * (num / den) + den ≤ den * q := by
      rw [← Nat.mul_succ]
      exact Nat.mul_le_mul_left den less
    omega
  · have step : q < roundDiv num den ↔ den ≤ 2 * (num % den) := by
      unfold roundDiv
      dsimp only
      rw [same]
      grind
    rw [same] at whole
    omega
  · have gap : den * q + den ≤ den * (num / den) := by
      rw [← Nat.mul_succ]
      exact Nat.mul_le_mul_left den more
    omega

theorem roundDiv_one (n : Nat) : roundDiv n 1 = n := by simp [roundDiv, Nat.mod_one]

/-- The exponent at which a positive integer is a mantissa of full length. -/
theorem unit_natural {n : Nat} (positive : 0 < n) :
    (Ratio.mk n 1).unit = (n.log2 : Int) - 52 := by
  have long : 2 ^ n.log2 ≤ n := Nat.log2_self_le (by omega)
  have one : Nat.log2 1 = 0 := by decide
  have place : (n.log2 : Int) - (0 : Nat) - 53 + 53 = n.log2 := by omega
  have short : (Ratio.mk n 1).lt (Ratio.scaled 1 2 n.log2) = false := by
    simpa [Ratio.lt, Ratio.scaled] using long
  unfold Ratio.unit
  dsimp only
  rw [one, place, short, if_neg Bool.false_ne_true]
  omega

theorem overPower_natural {n : Nat} (positive : 0 < n) :
    2 ^ 52 ≤ (Ratio.mk n 1).overPower ((n.log2 : Int) - 52) ∧
      (Ratio.mk n 1).overPower ((n.log2 : Int) - 52) ≤ 2 ^ 53 := by
  have long : 2 ^ n.log2 ≤ n := Nat.log2_self_le (by omega)
  have short : n < 2 ^ (n.log2 + 1) := Nat.lt_log2_self
  -- The integer is divided by `2 ^ k`, or multiplied by it if it is shorter than a mantissa.
  rcases Nat.le_total 52 n.log2 with above | below
  · obtain ⟨k, log⟩ := Nat.exists_eq_add_of_le above
    have shift : ((n.log2 : Int) - 52).toNat = k := by omega
    have quotient : 2 ^ 52 ≤ n / 2 ^ k ∧ n / 2 ^ k < 2 ^ 53 := by
      rw [log] at long short
      rw [Nat.le_div_iff_mul_le (Nat.two_pow_pos k), Nat.div_lt_iff_lt_mul (Nat.two_pow_pos k),
        ← Nat.pow_add, ← Nat.pow_add]
      exact ⟨long, by rwa [show 53 + k = 52 + k + 1 by omega]⟩
    have top := roundDiv_le n (2 ^ k)
    have bottom := le_roundDiv n (2 ^ k)
    rw [Ratio.overPower, if_pos (by omega), shift, Nat.one_mul]
    exact ⟨quotient.1.trans bottom, top.trans quotient.2⟩
  · obtain ⟨k, log⟩ := Nat.exists_eq_add_of_le below
    have lower : 2 ^ 52 ≤ n * 2 ^ k := by
      rw [log, Nat.pow_add]
      exact Nat.mul_le_mul_right _ long
    have upper : n * 2 ^ k < 2 ^ 53 := calc
      n * 2 ^ k < 2 ^ (n.log2 + 1) * 2 ^ k :=
        Nat.mul_lt_mul_of_pos_right short (Nat.two_pow_pos k)
      _ = 2 ^ 53 := by rw [← Nat.pow_add, show n.log2 + 1 + k = 53 by omega]
    have exact : (Ratio.mk n 1).overPower ((n.log2 : Int) - 52) = n * 2 ^ k := by
      unfold Ratio.overPower
      split
      · obtain rfl : k = 0 := by omega
        rw [show ((n.log2 : Int) - 52).toNat = 0 by omega]
        exact (roundDiv_one n).trans (Nat.mul_one n).symm
      · rw [show (-((n.log2 : Int) - 52)).toNat = k by omega]
        exact roundDiv_one _
    rw [exact]
    exact ⟨lower, Nat.le_of_lt upper⟩

theorem lt_two_pow {n k : Nat} : n < 2 ^ k ↔ n = 0 ∨ n.log2 < k := by
  rcases Nat.eq_zero_or_pos n with rfl | positive
  · simp
  · rw [← Nat.log2_lt positive.ne']
    omega

def topExponent : Nat := 970

/-- Half of the distance between the greatest floats. -/
def halfUnit : Nat := 2 ^ topExponent

theorem two_pow_eq {k e : Nat} (place : e = k + topExponent) : 2 ^ e = 2 ^ k * halfUnit := by
  rw [place, Nat.pow_add, halfUnit]

/-- The middle between the greatest float and the next power of two. -/
def overflow : Nat := (2 ^ 54 - 1) * halfUnit

theorem overflow_eq : overflow = 2 ^ 1024 - 2 ^ 970 := by
  rw [two_pow_eq (show 1024 = 54 + topExponent by decide),
    two_pow_eq (show 970 = 0 + topExponent by decide), overflow, Nat.sub_mul, Nat.pow_zero]

theorem log2_of_lt_overflow {n : Nat} (finite : n < overflow) : n.log2 < 1024 := by
  have below : n < 2 ^ 54 * halfUnit := by
    rw [overflow] at finite
    omega
  rw [← two_pow_eq rfl] at below
  rcases lt_two_pow.mp below with rfl | short
  · decide
  · exact short

theorem lt_overflow_of_log2 {n : Nat} (short : n.log2 < 1023) : n < overflow := by
  have below := lt_two_pow.mpr (.inr short)
  rw [two_pow_eq (show 1023 = 53 + topExponent by decide)] at below
  rw [overflow]
  omega

/-- Rounding an integer reaches infinity from the middle on. -/
theorem floatBits_natural {n : Nat} (positive : 0 < n) :
    (Ratio.mk n 1).floatBits ≤ infinityBits ∧
      ((Ratio.mk n 1).floatBits < infinityBits ↔ n < overflow) := by
  obtain ⟨long, short⟩ := overPower_natural positive
  have middle (last : n.log2 = 1023) :
      2 ^ 53 ≤ (Ratio.mk n 1).overPower ((n.log2 : Int) - 52) ↔ overflow ≤ n := by
    have unit : (Ratio.mk n 1).overPower ((n.log2 : Int) - 52) =
        roundDiv n (2 ^ 1 * halfUnit) := by
      have shift : (((1023 : Nat) : Int) - 52).toNat = 1 + topExponent := by decide
      rw [last, Ratio.overPower, if_pos (by decide), Nat.one_mul, shift, Nat.pow_eq,
        two_pow_eq rfl]
    have positive : 0 < 2 ^ 1 * halfUnit := Nat.mul_pos two_pos (Nat.two_pow_pos topExponent)
    have carry : 2 ^ 53 - 1 < roundDiv n (2 ^ 1 * halfUnit) ↔
        (2 * (2 ^ 53 - 1) + 1) * (2 ^ 1 * halfUnit) ≤ 2 * n := lt_roundDiv_iff positive (by decide)
    rw [unit, overflow]
    omega
  have finite : n < overflow → n.log2 < 1024 := log2_of_lt_overflow
  have infinite : n.log2 < 1023 → n < overflow := lt_overflow_of_log2
  have infinity : infinityBits = 2047 * 2 ^ 52 := rfl
  have full : fullMantissa = 2 ^ 52 := rfl
  have greatest : greatestExponent = 2047 := rfl
  unfold Ratio.floatBits
  rw [unit_natural positive, infinity, full, greatest]
  dsimp only
  generalize (Ratio.mk n 1).overPower ((n.log2 : Int) - 52) = m at long short middle ⊢
  generalize n.log2 = log at middle finite infinite ⊢
  by_cases carried : m = 2 ^ 53
  · have same : (m == 2 * 2 ^ 52) = true := by simp [carried]
    rw [same]
    simp only [if_true]
    rw [if_neg (by omega)]
    split <;> omega
  · have same : (m == 2 * 2 ^ 52) = false := by simpa using carried
    rw [same]
    simp only [Bool.false_eq_true, if_false]
    rw [if_neg (by omega)]
    split <;> omega

/-- The shortcuts for zero and for very long integers agree with the rounding. -/
theorem toFloat_natural_isFinite (negative : Bool) (n : Nat) :
    (toFloat negative n 0).isFinite = true ↔ n < overflow := by
  have scaled : Ratio.scaled n 10 0 = Ratio.mk n 1 := by simp [Ratio.scaled]
  unfold toFloat
  dsimp only
  rcases Nat.eq_zero_or_pos n with rfl | positive
  · refine iff_of_true ?_ (lt_overflow_of_log2 (by decide))
    rw [if_pos (by rfl)]
    exact (ofSignBits_isFinite negative (Nat.zero_le _)).mpr (by decide)
  rw [if_neg (by simp; omega)]
  split
  next far =>
    refine iff_of_false ?_ fun small => ?_
    · exact mt (ofSignBits_isFinite negative (Nat.le_refl _)).mp (Nat.lt_irrefl _)
    · have short := log2_of_lt_overflow small
      omega
  · obtain ⟨within, finite⟩ := floatBits_natural positive
    rw [scaled, ofSignBits_isFinite negative within, finite]

/-- The nearest float of an integer is infinite from the middle between the greatest float and the
next power of two on. -/
theorem ofInt?_eq_none_iff (n : Int) : ofInt? n = none ↔ 2 ^ 1024 - 2 ^ 970 ≤ n.natAbs := by
  rw [← overflow_eq, ← Nat.not_lt, ← toFloat_natural_isFinite (n < 0)]
  unfold ofInt?
  dsimp only
  split <;> simp [*]

end BuildLog.Decimal
