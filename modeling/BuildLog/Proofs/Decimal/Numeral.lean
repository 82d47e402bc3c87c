import BuildLog.Proofs.Decimal.Limit
import BuildLog.Proofs.Text.Blank
import Mathlib.Data.Nat.Digits.Defs

/-! Numbers written in decimal digits. A run of digits need not be one: signs such as a superscript
two are digits without a place value. Where a number is read from a run of digits, the decimal ones
in front of the first such sign are its notation, and the rest of the run is passed over. -/
namespace BuildLog.Decimal

open Text

/-- The digits are the notation of a number of 32 bits. -/
structure IsNotation (digits : List Char) (n : Int) : Prop where
  filled : digits ≠ []
  decimal : ∀ c ∈ digits, isDecimal c = true
  value : n = natOf digits
  bounded : n ≤ 2 ^ 31 - 1

structure IsReadFrom (digits : List Char) (n : Int) : Prop where
  run : ∀ c ∈ digits, isDigit c = true
  front : IsNotation (digits.takeWhile isDecimal) n
  few : (digits.takeWhile isDecimal).length ≤ digitLimit

theorem isDigit_of_isDecimal {c : Char} (decimal : isDecimal c = true) : isDigit c = true :=
  Bool.or_eq_true_iff.mpr (.inl decimal)

theorem colon_isDigit : isDigit ':' = false := by decide +kernel

theorem space_isDigit : isDigit ' ' = false := isDigit_of_isBlank (by decide)

theorem IsNotation.nonneg {digits : List Char} {n : Int} (written : IsNotation digits n) :
    0 ≤ n := by
  rw [written.value]
  exact Int.natCast_nonneg _

/-- Where every digit has a place value the whole run counts. -/
theorem IsNotation.isReadFrom {digits : List Char} {n : Int} (written : IsNotation digits n)
    (few : digits.length ≤ digitLimit) : IsReadFrom digits n := by
  have whole : digits.takeWhile isDecimal = digits := List.takeWhile_eq_self_iff.mpr written.decimal
  refine ⟨fun c member => isDigit_of_isDecimal (written.decimal c member), ?_, ?_⟩
  · rwa [whole]
  · rwa [whole]

namespace IsReadFrom

variable {digits : List Char} {n : Int}

theorem isNotation_iff (read : IsReadFrom digits n) :
    IsNotation digits n ↔ ∀ c ∈ digits, isDecimal c = true := by
  constructor
  · exact IsNotation.decimal
  · intro decimal
    have whole : digits.takeWhile isDecimal = digits := List.takeWhile_eq_self_iff.mpr decimal
    rw [← whole]
    exact read.front

theorem not_mem (read : IsReadFrom digits n) {c : Char} (other : isDigit c = false) :
    c ∉ digits := by
  intro member
  rw [read.run c member] at other
  contradiction

/-- A run begins with a digit. -/
theorem exists_cons (read : IsReadFrom digits n) :
    ∃ d rest, digits = d :: rest ∧ isDigit d = true := by
  cases digits with
  | nil => exact absurd rfl read.front.filled
  | cons d rest => exact ⟨d, rest, rfl, read.run d List.mem_cons_self⟩

end IsReadFrom

/-- No digit is a blank or a sign, so nothing is passed over in front of digits. -/
theorem splitSign_trimStart_of_digits {digits : List Char}
    (run : ∀ c ∈ digits, isDigit c = true) : splitSign (trimStart digits) = (false, digits) := by
  have minus : isDigit '-' = false := by decide +kernel
  have plus : isDigit '+' = false := by decide +kernel
  cases digits with
  | nil => rfl
  | cons c rest =>
    have first : isDigit c = true := run c List.mem_cons_self
    have solid : isBlank c = false := by
      by_contra blank
      rw [isDigit_of_isBlank (by simpa using blank)] at first
      contradiction
    have whole : trimStart (c :: rest) = c :: rest := by simp [trimStart, solid]
    have notMinus : c ≠ '-' := by rintro rfl; simp [minus] at first
    have notPlus : c ≠ '+' := by rintro rfl; simp [plus] at first
    rw [whole]
    unfold splitSign
    split
    next same => exact absurd (List.cons.inj same).1 notMinus
    next same => exact absurd (List.cons.inj same).1 notPlus
    next => rfl

theorem fits_natCast (n : Nat) : fits 32 n = true ↔ (n : Int) ≤ 2 ^ 31 - 1 := by
  have beyond : ((Nat.pow 2 (32 - 1) : Nat) : Int) = 2 ^ 31 := by decide
  simp only [fits, beyond, Bool.and_eq_true, decide_eq_true_eq]
  omega

theorem boundedPrefix_of_digits {digits : List Char} (run : ∀ c ∈ digits, isDigit c = true)
    (n : Int) : boundedPrefix 32 digits = .ok (some n) ↔ IsReadFrom digits n := by
  have read : intPrefix digits =
      if (digits.takeWhile isDecimal).isEmpty then .ok none
      else (readDigits (digits.takeWhile isDecimal)).map fun n => some (withSign false n) := by
    simp only [intPrefix, splitSign_trimStart_of_digits run]
  rw [boundedPrefix, read]
  by_cases empty : digits.takeWhile isDecimal = []
  · refine ⟨?_, fun read => absurd empty read.front.filled⟩
    simp [empty, Except.map]
  by_cases many : digitLimit < (digits.takeWhile isDecimal).length
  · refine ⟨?_, fun read => absurd read.few (Nat.not_le.mpr many)⟩
    simp [empty, readDigits, many, Except.map]
  have known : readDigits (digits.takeWhile isDecimal) =
      .ok (natOf (digits.takeWhile isDecimal)) := by
    rw [readDigits, if_neg many]
  rw [if_neg (by simpa using empty), known]
  simp only [Except.map, withSign, Bool.false_eq_true, if_false, Except.ok.injEq,
    Option.filter_eq_some_iff, Option.some.injEq]
  constructor
  · rintro ⟨rfl, within⟩
    exact ⟨run, ⟨empty, fun c => List.mem_takeWhile_imp, rfl, (fits_natCast _).mp within⟩,
      Nat.not_lt.mp many⟩
  · rintro ⟨-, ⟨-, -, rfl, bounded⟩, -⟩
    exact ⟨rfl, (fits_natCast _).mpr bounded⟩

theorem decimal?_of_ascii {c : Char} (ascii : c.isDigit = true) :
    decimal? c = some (c.toNat - '0'.toNat) := by
  have small : c.toNat < 128 := by
    simp only [Char.isDigit, Bool.and_eq_true, decide_eq_true_eq] at ascii
    have last : c.val.toNat ≤ 57 := ascii.2
    exact Nat.lt_of_le_of_lt last (by omega)
  rw [decimal?, if_pos small, if_pos ascii]
  rfl

theorem natOf_of_ascii {digits : List Char} (ascii : ∀ c ∈ digits, c.isDigit = true) :
    natOf digits = Nat.ofDigitChars 10 digits 0 := by
  refine List.foldl_ext _ _ 0 fun n c member => ?_
  rw [decimal?_of_ascii (ascii c member), Option.getD_some]

theorem isNotation_toString {n : Nat} (small : n < 2 ^ 31) :
    IsNotation (toString n).toList n := by
  have digits : (toString n).toList = Nat.toDigits 10 n := Nat.toList_repr
  have ascii : ∀ c ∈ Nat.toDigits 10 n, c.isDigit = true :=
    fun c => Nat.isDigit_of_mem_toDigits (by omega) (by omega)
  rw [digits]
  refine ⟨Nat.toDigits_ne_nil, fun c member => ?_, ?_, by omega⟩
  · rw [isDecimal, decimal?_of_ascii (ascii c member), Option.isSome_some]
  · rw [natOf_of_ascii ascii, Nat.ofDigitChars_ten_toDigits]

/-- The usual notation of a number has few digits, and all of them count. -/
theorem isReadFrom_toString {n : Nat} (small : n < 2 ^ 31) :
    IsReadFrom (toString n).toList n := by
  have digits : (toString n).toList = Nat.toDigits 10 n := Nat.toList_repr
  have ten : (toString n).toList.length ≤ 10 := by
    rw [digits, Nat.length_toDigits_le_iff (by omega) (by omega)]
    omega
  exact (isNotation_toString small).isReadFrom (Nat.le_trans ten (by decide))

end BuildLog.Decimal
