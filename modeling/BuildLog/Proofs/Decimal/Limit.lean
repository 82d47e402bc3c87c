import BuildLog.Json.Number
import Mathlib.Data.List.Basic

/-! The limit on the digits of an integer. A text is refused only if it begins with more of them.
The text of a JSON value never does unless the value is a string, however great the value is. -/
namespace BuildLog

open Text

theorem except_map_eq_error {ε α β : Type} {x : Except ε α} {f : α → β} :
    (∃ e, x.map f = .error e) ↔ ∃ e, x = .error e := by
  cases x <;> simp [Except.map]

namespace Decimal

def leadingDigits (cs : List Char) : List Char :=
  (splitSign (trimStart cs)).2.takeWhile isDecimal

def IsOverlong (cs : List Char) : Prop := digitLimit < (leadingDigits cs).length

theorem splitSign_suffix (cs : List Char) : (splitSign cs).2 <:+ cs := by
  unfold splitSign
  split
  · exact List.suffix_cons _ _
  · exact List.suffix_cons _ _
  · exact List.suffix_refl _

theorem leadingDigits_length_le (cs : List Char) : (leadingDigits cs).length ≤ cs.length :=
  calc (leadingDigits cs).length
      ≤ (splitSign (trimStart cs)).2.length := (List.takeWhile_sublist _).length_le
    _ ≤ (trimStart cs).length := (splitSign_suffix _).length_le
    _ ≤ cs.length := (List.dropWhile_sublist _).length_le

theorem not_isOverlong_of_short {cs : List Char} (short : cs.length ≤ digitLimit) :
    ¬IsOverlong cs :=
  Nat.not_lt.mpr (Nat.le_trans (leadingDigits_length_le cs) short)

theorem readDigits_eq_error {digits : List Char} :
    (∃ e, readDigits digits = .error e) ↔ digitLimit < digits.length := by
  unfold readDigits
  split <;> simp [*]

theorem boundedPrefix_eq_error {bits : Nat} {cs : List Char} :
    (∃ e, boundedPrefix bits cs = .error e) ↔ IsOverlong cs := by
  rw [boundedPrefix, except_map_eq_error]
  change (∃ e, (if (leadingDigits cs).isEmpty then Except.ok none
    else (readDigits (leadingDigits cs)).map _) = _) ↔ digitLimit < (leadingDigits cs).length
  cases read : leadingDigits cs with
  | nil => simp
  | cons d rest =>
    rw [List.isEmpty_cons, if_neg Bool.false_ne_true, except_map_eq_error, readDigits_eq_error]

theorem boundedPrefix_of_short (bits : Nat) {cs : List Char} (short : cs.length ≤ digitLimit) :
    ∃ n, boundedPrefix bits cs = .ok n := by
  cases read : boundedPrefix bits cs with
  | ok n => exact ⟨n, rfl⟩
  | error e =>
    exact absurd (boundedPrefix_eq_error.mp ⟨e, read⟩) (not_isOverlong_of_short short)

/-- A character that neither belongs to a number nor may stand in front of one. -/
structure IsStop (c : Char) : Prop where
  solid : isBlank c = false
  notMinus : c ≠ '-'
  notPlus : c ≠ '+'
  noDigit : isDecimal c = false

instance (c : Char) : Decidable (IsStop c) :=
  decidable_of_iff (isBlank c = false ∧ c ≠ '-' ∧ c ≠ '+' ∧ isDecimal c = false)
    ⟨fun h => ⟨h.1, h.2.1, h.2.2.1, h.2.2.2⟩,
      fun h => ⟨h.solid, h.notMinus, h.notPlus, h.noDigit⟩⟩

theorem splitSign_before (xs ys : List Char) {c : Char} (stop : IsStop c) :
    ∃ zs, (splitSign (xs ++ c :: ys)).2 = zs ++ c :: ys ∧ zs.length ≤ xs.length := by
  cases xs with
  | nil =>
    refine ⟨[], ?_, Nat.le_refl _⟩
    unfold splitSign
    split
    next same => exact absurd (List.cons.inj same).1 stop.notMinus
    next same => exact absurd (List.cons.inj same).1 stop.notPlus
    next => rfl
  | cons x xs =>
    unfold splitSign
    split
    next same => exact ⟨xs, (List.cons.inj same).2.symm, by simp⟩
    next same => exact ⟨xs, (List.cons.inj same).2.symm, by simp⟩
    next => exact ⟨x :: xs, rfl, Nat.le_refl _⟩

/-- Digits end where a character stops them. -/
theorem leadingDigits_before (xs ys : List Char) {c : Char} (stop : IsStop c) :
    (leadingDigits (xs ++ c :: ys)).length ≤ xs.length := by
  have trimmed : trimStart (xs ++ c :: ys) = trimStart xs ++ c :: ys := by
    unfold trimStart
    rw [List.dropWhile_append]
    cases rest : xs.dropWhile isBlank with
    | nil => simp [stop.solid]
    | cons x rest => simp
  obtain ⟨zs, unsigned, within⟩ := splitSign_before (trimStart xs) ys stop
  have digits : (zs ++ c :: ys).takeWhile isDecimal = zs.takeWhile isDecimal := by
    rw [List.takeWhile_append]
    split
    next whole => simp [(List.takeWhile_sublist isDecimal).eq_of_length whole, stop.noDigit]
    next => rfl
  calc (leadingDigits (xs ++ c :: ys)).length
      = (zs.takeWhile isDecimal).length := by rw [leadingDigits, trimmed, unsigned, digits]
    _ ≤ zs.length := (List.takeWhile_sublist _).length_le
    _ ≤ (trimStart xs).length := within
    _ ≤ xs.length := (List.dropWhile_sublist _).length_le

theorem not_isOverlong_of_stop {xs ys : List Char} {c : Char} (stop : IsStop c)
    (few : xs.length ≤ digitLimit) : ¬IsOverlong (xs ++ c :: ys) :=
  Nat.not_lt.mpr (Nat.le_trans (leadingDigits_before xs ys stop) few)

theorem not_isOverlong_cons {ys : List Char} {c : Char} (stop : IsStop c) :
    ¬IsOverlong (c :: ys) := by
  have none := leadingDigits_before [] ys stop
  exact Nat.not_lt.mpr (Nat.le_trans none (Nat.zero_le _))

theorem positional_stops (ds : List Char) {position : Int} (near : position ≤ 15) :
    ∃ xs ys, Layout.positional ds position = xs ++ '.' :: ys ∧ xs.length ≤ 16 := by
  unfold Layout.positional
  split
  · exact ⟨['0'], _, rfl, by simp⟩
  · refine ⟨_, _, rfl, ?_⟩
    simp only [List.length_append, List.length_take, List.length_replicate]
    omega

theorem scientific_stops (layout : Layout) (ds : List Char) (position : Int) :
    ∃ xs c ys, layout.scientific ds position = xs ++ c :: ys ∧ IsStop c ∧ xs.length ≤ 1 := by
  unfold Layout.scientific
  split
  · exact ⟨[], 'e', _, rfl, by decide, by simp⟩
  next d => exact ⟨[d], 'e', _, rfl, by decide, by simp⟩
  next d rest _ => exact ⟨[d], '.', _, rfl, by decide, by simp⟩

theorem finite_stops (d : Digits) :
    ∃ xs c ys, Layout.plain.finite d = xs ++ c :: ys ∧ IsStop c ∧ xs.length ≤ 16 := by
  unfold Layout.finite
  dsimp only
  split
  next inside =>
    have near : d.leading.2 ≤ 15 := of_decide_eq_true (Bool.and_eq_true_iff.mp inside).2
    obtain ⟨xs, ys, text, few⟩ := positional_stops d.leading.1 near
    exact ⟨xs, '.', ys, text, by decide, few⟩
  next =>
    obtain ⟨xs, c, ys, text, stop, few⟩ :=
      scientific_stops Layout.plain d.leading.1 d.leading.2
    exact ⟨xs, c, ys, text, stop, by omega⟩

/-- The text of a float has a point, an exponent or a letter near its beginning. -/
theorem text_stops (x : Float) :
    ∃ xs c ys, (Layout.plain.text x).toList = xs ++ c :: ys ∧ IsStop c ∧ xs.length ≤ 17 := by
  have signed : (if decide (signBit ≤ x.toBits.toNat) = true then ['-'] else []).length ≤ 1 := by
    split <;> simp
  unfold Layout.text
  dsimp only
  -- Each form is written behind the same sign, which is kept apart from it.
  generalize (if decide (signBit ≤ x.toBits.toNat) = true then ['-'] else []) = sign at signed ⊢
  split
  · exact ⟨[], 'n', ['a', 'n'], by decide, by decide, by simp⟩
  split
  · refine ⟨sign, 'i', ['n', 'f'], ?_, by decide, by omega⟩
    rw [String.toList_append, String.toList_ofList]
    rfl
  split
  · refine ⟨sign ++ ['0'], '.', ['0'], ?_, by decide, ?_⟩
    · rw [String.toList_ofList, List.append_assoc]
      rfl
    · rw [List.length_append, List.length_singleton]
      omega
  · obtain ⟨xs, c, ys, text, stop, few⟩ := finite_stops (Interval.shortest _)
    refine ⟨sign ++ xs, c, ys, ?_, stop, ?_⟩
    · rw [String.toList_ofList, text, List.append_assoc]
    · rw [List.length_append]
      exact Nat.add_le_add signed few

end Decimal

namespace Json.Value

open Decimal (IsOverlong)

theorem text_float_not_isOverlong (x : Float) : ¬IsOverlong (text (.float x)).toList := by
  obtain ⟨xs, c, ys, same, stop, few⟩ := Decimal.text_stops x
  change ¬IsOverlong (Decimal.Layout.plain.text x).toList
  rw [same]
  exact Decimal.not_isOverlong_of_stop stop (Nat.le_trans few (by decide))

theorem text_array_not_isOverlong (items : List Value) :
    ¬IsOverlong (text (.array items)).toList := by
  simp only [text, shown, String.toList_append]
  exact Decimal.not_isOverlong_cons (by decide)

theorem text_object_not_isOverlong (members : Members) :
    ¬IsOverlong (text (.object members)).toList := by
  simp only [text, shown, String.toList_append]
  exact Decimal.not_isOverlong_cons (by decide)

/-- Only a string can stand where a number is due and have too many digits for one. -/
theorem bounded?_eq_error {bits : Nat} {v : Value} :
    (∃ e, v.bounded? bits = .error e) ↔ ∃ s, v = .string s ∧ IsOverlong s.toList := by
  have refused (v : Value) (other : ¬IsOverlong v.text.toList) :
      ¬∃ e, (Decimal.boundedPrefix bits v.text.toList).map (·.map Ordinal.int) = .error e := by
    rwa [except_map_eq_error, Decimal.boundedPrefix_eq_error]
  cases v with
  | null => simp [bounded?]
  | bool b => simp [bounded?]
  | int n => simp [bounded?]
  | float x => simpa [bounded?] using refused _ (text_float_not_isOverlong x)
  | array items => simpa [bounded?] using refused _ (text_array_not_isOverlong items)
  | object members => simpa [bounded?] using refused _ (text_object_not_isOverlong members)
  | string s =>
    simp only [bounded?, except_map_eq_error, Decimal.boundedPrefix_eq_error, string.injEq,
      exists_eq_left']
    rfl

end Json.Value

end BuildLog
