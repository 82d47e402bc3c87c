import BuildLog.Json.Number
import BuildLog.Proofs.Decimal.Front
import BuildLog.Proofs.Decimal.Overflow
import BuildLog.Proofs.Diagnostic.Location

/-! When reading numbers fails. An integer of more than 4300 digits is not read from a text,
wherever in the text it is looked for, and an integer beyond all floats is no float. Everything
else has an answer. -/
namespace BuildLog

open Text

namespace Location

open Decimal (digitLimit IsReadFrom IsOverlong)

/-- Digits of which more than the limit have a place value before the first that has none. -/
structure IsOverlongRun (digits : List Char) : Prop where
  run : ∀ c ∈ digits, isDigit c = true
  long : digitLimit < (digits.takeWhile Text.isDecimal).length

theorem number?_eq_error {digits : List Char} :
    (∃ e, number? digits = .error e) ↔ IsOverlongRun digits := by
  by_cases run : ∀ c ∈ digits, isDigit c = true
  · have leading : Decimal.leadingDigits digits = digits.takeWhile Text.isDecimal := by
      rw [Decimal.leadingDigits, Decimal.splitSign_trimStart_of_digits run]
    have whole : number? digits = Decimal.boundedPrefix 32 digits := by
      cases digits with
      | nil => decide
      | cons c rest => rw [number?, if_neg (by simpa using run)]
    rw [whole, Decimal.boundedPrefix_eq_error, IsOverlong, leading]
    exact ⟨fun long => ⟨run, long⟩, fun overlong => overlong.long⟩
  · rw [number?, if_pos (by simpa using Or.inr run)]
    refine iff_of_false ?_ fun overlong => run overlong.run
    rintro ⟨e, failed⟩
    cases failed

namespace IsOverlongRun

theorem colon_not_mem {digits : List Char} (overlong : IsOverlongRun digits) : ':' ∉ digits := by
  intro member
  have digit := overlong.run _ member
  rw [Decimal.colon_isDigit] at digit
  contradiction

theorem beforeColon? {digits : List Char} (overlong : IsOverlongRun digits) (behind : List Char) :
    beforeColon? (digits ++ ':' :: behind) = some (digits, behind) :=
  beforeColon?_eq_some_iff.mpr ⟨rfl, overlong.colon_not_mem⟩

end IsOverlongRun

def HoldsOverlongColumn (rest : List Char) : Prop :=
  ∃ column behind, rest = column ++ ':' :: behind ∧ IsOverlongRun column

theorem columnNumber_eq_error {rest : List Char} :
    (∃ e, columnNumber rest = .error e) ↔ HoldsOverlongColumn rest := by
  constructor
  · rintro ⟨e, failed⟩
    unfold columnNumber at failed
    split at failed
    · cases failed
    next column behind cut =>
      have overlong := number?_eq_error.mp (except_map_eq_error.mp ⟨e, failed⟩)
      exact ⟨column, behind, (beforeColon?_eq_some_iff.mp cut).1, overlong⟩
  · rintro ⟨column, behind, rfl, overlong⟩
    rw [columnNumber, overlong.beforeColon?]
    exact except_map_eq_error.mpr (number?_eq_error.mpr overlong)

/-- The line has a place behind the name of a file, and where it is told stands a number of too
many digits: as the line, or as the column of a line that can be read. -/
def HoldsOverlong (line : List Char) : Prop :=
  ∃ file row rest, line = file ++ ':' :: (row ++ ':' :: rest) ∧
    (0 < file.length ∧ file.length ≤ longestFile) ∧
    EndsFile line file.length ∧ (∀ j < file.length, ¬EndsFile line j) ∧
    (IsOverlongRun row ∨ (∃ n, IsReadFrom row n) ∧ HoldsOverlongColumn rest)

/-- Once the parts of a line are told apart, its numbers decide. -/
theorem read?_fails_at {line row rest : List Char} {i : Nat} (ended : fileEnd? line = some i)
    (cut : beforeColon? (line.drop (i + 1)) = some (row, rest)) :
    (∃ e, read? line = .error e) ↔
      IsOverlongRun row ∨ (∃ n, IsReadFrom row n) ∧ HoldsOverlongColumn rest := by
  rw [← number?_eq_error, ← columnNumber_eq_error]
  simp only [read?, ended, cut, ← number?_eq_some_iff]
  cases number : number? row with
  | error e => simp [bind, Except.bind]
  | ok n? =>
    cases n? with
    | none => simp [bind, Except.bind, pure, Except.pure]
    | some n => cases columnNumber rest <;> simp [bind, Except.bind, pure, Except.pure]

theorem read?_eq_error {line : List Char} :
    (∃ e, read? line = .error e) ↔ HoldsOverlong line := by
  constructor
  · rintro ⟨e, failed⟩
    cases ended : fileEnd? line with
    | none =>
      simp only [read?, ended] at failed
      cases failed
    | some i =>
      cases cut : beforeColon? (line.drop (i + 1)) with
      | none =>
        simp only [read?, ended, cut] at failed
        cases failed
      | some parts =>
        obtain ⟨row, rest⟩ := parts
        obtain ⟨whole, length⟩ := fileEnd?_split ended
        rw [(beforeColon?_eq_some_iff.mp cut).1] at whole
        obtain ⟨within, ends, first⟩ := fileEnd?_eq_some_iff.mp ended
        refine ⟨line.take i, row, rest, whole, ?_⟩
        rw [length]
        exact ⟨within, ends, first, (read?_fails_at ended cut).mp ⟨e, failed⟩⟩
  · rintro ⟨file, row, rest, rfl, within, ends, first, wrong⟩
    have behind : (file ++ ':' :: (row ++ ':' :: rest)).drop (file.length + 1) =
        row ++ ':' :: rest := by
      rw [← List.drop_drop, List.drop_left]
      rfl
    refine (read?_fails_at (fileEnd?_eq_some_iff.mpr ⟨within, ends, first⟩) ?_).mpr wrong
    rw [behind]
    rcases wrong with overlong | ⟨⟨n, read⟩, -⟩
    · exact overlong.beforeColon? rest
    · exact beforeColon?_of_isReadFrom read rest

end Location

theorem Diagnostic.read?_eq_error {line : String} :
    (∃ e, Diagnostic.read? line = .error e) ↔ Location.HoldsOverlong line.toList := by
  rw [← Location.read?_eq_error]
  unfold Diagnostic.read?
  cases Location.read? line.toList with
  | error e => simp [bind, Except.bind]
  | ok location? => cases location? <;> simp [bind, Except.bind, pure, Except.pure]

namespace Json.Value

open Decimal (IsFront IsIntegerOf digitLimit)

def BeginsOverlong (s : String) : Prop :=
  ∃ negative digits, IsFront s.toList negative digits ∧ digitLimit < digits.length

/-- Integers of so many bits are read: from a text its integer, unless that is too long, and of
integers those within the bounds. -/
structure ReadsIntegers (bits : Nat) (read : Value → Except Decimal.Error (Option Ordinal))
    (s : String) (n : Int) : Prop where
  fails : (∃ e, read (.string s) = .error e) ↔ BeginsOverlong s
  exact : ∀ m, read (.string s) = .ok (some m) ↔ ∃ k, m = .int k ∧ IsIntegerOf bits s.toList k
  whole : read (.int n) =
    .ok (if -2 ^ (bits - 1) ≤ n ∧ n < 2 ^ (bits - 1) then some (.int n) else none)

theorem bounded?_readsIntegers (bits : Nat) (s : String) (n : Int) :
    ReadsIntegers bits (bounded? bits) s n where
  fails := by
    rw [bounded?_eq_error]
    simp only [string.injEq, exists_eq_left', BeginsOverlong, Decimal.isOverlong_iff]
  exact m := by
    change (Decimal.boundedPrefix bits s.toList).map (·.map Ordinal.int) = .ok (some m) ↔ _
    simp only [← Decimal.boundedPrefix_eq_some_iff]
    cases Decimal.boundedPrefix bits s.toList with
    | error e => simp [Except.map]
    | ok n? => simp [Except.map, eq_comm, and_comm]
  whole := by simp only [bounded?, ← Decimal.fits_iff]

theorem float?_int_eq_error (n : Int) :
    (∃ e, (int n).float? = .error e) ↔ 2 ^ 1024 - 2 ^ 970 ≤ n.natAbs := by
  rw [← Decimal.ofInt?_eq_none_iff, float?]
  cases Decimal.ofInt? n <;> simp

/-- No text is too long for a float, and no value for the number to fall back on: a reader with
such a number fails where the reader without it does. What fails is a text with too many digits in
front, a line with such digits in its place, and an integer beyond all floats. -/
theorem readers_fail_iff (s : String) (n : Int) (v : Value) :
    ((∃ e, Location.read? s.toList = .error e) ↔ Location.HoldsOverlong s.toList) ∧
    ((∃ e, Diagnostic.read? s = .error e) ↔ Location.HoldsOverlong s.toList) ∧
    ReadsIntegers 32 int32? s n ∧ ReadsIntegers 64 int64? s n ∧
    (∃ x, (string s).float? = .ok x) ∧
    ((∃ e, (int n).float? = .error e) ↔ 2 ^ 1024 - 2 ^ 970 ≤ n.natAbs) ∧
    (∀ m, (∃ e, int32Or m v = .error e) ↔ ∃ e, v.int32? = .error e) ∧
    (∀ m, (∃ e, int64Or m v = .error e) ↔ ∃ e, v.int64? = .error e) ∧
    ∀ x, (∃ e, floatOr x v = .error e) ↔ ∃ e, v.float? = .error e :=
  ⟨Location.read?_eq_error, Diagnostic.read?_eq_error, bounded?_readsIntegers 32 s n,
    bounded?_readsIntegers 64 s n, ⟨Decimal.floatPrefix s.toList, rfl⟩, float?_int_eq_error n,
    fun _ => except_map_eq_error, fun _ => except_map_eq_error, fun _ => except_map_eq_error⟩

def ones : List Char := List.replicate 4301 '1'

theorem isDecimal_ones {c : Char} (member : c ∈ ones) : isDecimal c = true := by
  obtain rfl := List.eq_of_mem_replicate member
  decide

theorem ones_long : digitLimit < ones.length := by
  rw [ones, List.length_replicate]
  decide

theorem ones_isOverlongRun : Location.IsOverlongRun ones where
  run c member := Decimal.isDigit_of_isDecimal (isDecimal_ones member)
  long := by
    rw [List.takeWhile_eq_self_iff.mpr fun c => isDecimal_ones]
    exact ones_long

/-- A text of 4301 digits is no integer, a line with them in it no diagnostic, and no float is next
to the power of two behind the greatest one. -/
theorem readers_fail_iff_ones :
    (∃ e, (string (String.ofList ones)).int32? = .error e) ∧
      (∃ e, Diagnostic.read? (String.ofList ("a.c".toList ++ ':' :: (ones ++ [':']))) = .error e) ∧
      ∃ e, (int (2 ^ 1024)).float? = .error e := by
  let line := String.ofList ("a.c".toList ++ ':' :: (ones ++ [':']))
  obtain ⟨-, -, ⟨texts, -, -⟩, -⟩ := readers_fail_iff (String.ofList ones) 0 .null
  obtain ⟨-, lines, -⟩ := readers_fail_iff line 0 .null
  obtain ⟨-, -, -, -, -, floats, -⟩ := readers_fail_iff "" (2 ^ 1024) .null
  refine ⟨texts.mpr ?_, lines.mpr ?_, floats.mpr ?_⟩
  · refine ⟨false, ones, ⟨⟨[], [], [], ?_, nofun, .none, nofun⟩, ?_, ?_⟩, ones_long⟩
    · simp
    · exact List.ne_nil_of_length_pos (Nat.zero_lt_of_lt ones_long)
    · exact fun c => isDecimal_ones
  · rw [String.toList_ofList]
    refine ⟨"a.c".toList, ones, [], rfl, by decide, ⟨rfl, ⟨'1', rfl, by decide⟩, by decide⟩, ?_,
      .inl ones_isOverlongRun⟩
    rintro j before ⟨colon, -, -⟩
    obtain rfl | rfl | rfl : j = 0 ∨ j = 1 ∨ j = 2 := by
      change j < 3 at before
      omega
    all_goals
      generalize ones ++ [':'] = rest at colon
      cases colon
  · have power (k : Nat) : (2 ^ k : Int).natAbs = 2 ^ k := Int.natAbs_pow 2 k
    rw [power]
    exact Nat.sub_le _ _

end Json.Value

end BuildLog
