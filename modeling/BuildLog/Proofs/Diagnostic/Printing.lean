import BuildLog.Proofs.Diagnostic.Marker

/-! Diagnostics as compilers print them. What is printed is read back, with the blanks in front of
the message left out, as long as the path of the file looks neither like a location nor like the
marker of a severity. -/
namespace BuildLog

open Decimal (IsReadFrom)
open Text

namespace Location

/-- A path that ends where the printer ends it. A digit may stand behind the colon of a drive
letter, but a path that is a letter alone would itself be taken for a drive. -/
structure IsPath (path : List Char) : Prop where
  filled : 1 ≤ path.length
  short : path.length ≤ longestFile
  notLetter : ¬(path.length = 1 ∧ startsWithLetter path = true)
  unplaced : ∀ i d, path[i]? = some ':' → path[i + 1]? = some d → isDigit d = true →
    i = 1 ∧ startsWithLetter path = true

theorem startsWithLetter_append {path : List Char} (filled : path ≠ []) (behind : List Char) :
    startsWithLetter (path ++ behind) = startsWithLetter path := by
  cases path with
  | nil => exact absurd rfl filled
  | cons c rest => rfl

theorem IsPath.fileEnd? {path : List Char} (isPath : IsPath path) {d : Char}
    (digit : isDigit d = true) (rest : List Char) :
    fileEnd? (path ++ ':' :: d :: rest) = some path.length := by
  have filled : path ≠ [] := List.length_pos_iff.mp isPath.filled
  have letter := startsWithLetter_append filled (':' :: d :: rest)
  refine fileEnd?_eq_some_iff.mpr ⟨⟨isPath.filled, isPath.short⟩, ⟨?_, ⟨d, ?_, digit⟩, ?_⟩, ?_⟩
  · simp
  · simp
  · rintro ⟨one, marked⟩
    exact isPath.notLetter ⟨by omega, letter ▸ marked⟩
  · rintro j before ⟨colon, ⟨e, standing, follows⟩, notDrive⟩
    rw [List.getElem?_append_left before] at colon
    by_cases last : j + 1 < path.length
    · rw [List.getElem?_append_left last] at standing
      obtain ⟨one, marked⟩ := isPath.unplaced j e colon standing follows
      exact notDrive ⟨by omega, letter ▸ marked⟩
    · have at_end : j + 1 = path.length := by omega
      rw [at_end, List.getElem?_append_right (Nat.le_refl _), Nat.sub_self] at standing
      obtain rfl := Option.some.inj standing
      rw [Decimal.colon_isDigit] at follows
      contradiction

/-- Behind a path numbers are read to their last colon, if no digit stands there. -/
theorem IsPath.read? {path numbers behind : List Char} {n c : Int} (isPath : IsPath path)
    (place : IsPlace IsReadFrom numbers n c)
    (apart : ∀ e, behind.head? = some e → isDigit e = false) :
    read? (path ++ (numbers ++ behind)) = .ok (some ⟨String.ofList path, n, c⟩) := by
  refine read?_eq_some_iff.mpr ?_
  simp only [String.toList_ofList]
  cases place with
  | @row row _ first =>
    obtain ⟨d, digits, rfl, digit⟩ := first.exists_cons
    refine ⟨d :: digits, behind, by simp, ?_, first, columnNumber_of_head apart⟩
    have ended := isPath.fileEnd? digit (digits ++ ':' :: behind)
    simpa using ended
  | @column row column _ _ first second =>
    obtain ⟨d, digits, rfl, digit⟩ := first.exists_cons
    refine ⟨d :: digits, column ++ ':' :: behind, by simp, ?_, first,
      columnNumber_of_isReadFrom second behind⟩
    have ended := isPath.fileEnd? digit (digits ++ ':' :: (column ++ ':' :: behind))
    simpa using ended

end Location

namespace Diagnostic

open Location (IsPath IsPlace startsWithLetter)

/-- The marker behind the numbers comes first if there is none in front of them. -/
theorem isFirstMarker_of_place {severity : String} (known : severity ∈ severities)
    {path numbers after : List Char} {n c : Int} (place : IsPlace IsReadFrom numbers n c)
    (free : ¬HoldsMarker path) :
    IsFirstMarker (path ++ (numbers ++ (marker severity ++ after))) severity after := by
  refine ⟨known, ?_, ?_⟩
  · rw [← List.append_assoc]
    exact List.suffix_append _ _
  · rintro t other u ⟨more, rfl⟩ ends
    rcases marker_cases other place ends with later | earlier
    · exact later.length_le
    · exact absurd earlier free

def printedNumbers (row : Nat) : Option Nat → String
  | none => ":" ++ toString row ++ ":"
  | some column => ":" ++ toString row ++ ":" ++ toString column ++ ":"

def printed (path : String) (row : Nat) (column? : Option Nat) (severity message : String) :
    String :=
  path ++ printedNumbers row column? ++ " " ++ severity ++ ": " ++ message

theorem printedNumbers_isPlace {row : Nat} (row_small : row < 2 ^ 31) {column? : Option Nat}
    (column_small : ∀ column ∈ column?, column < 2 ^ 31) :
    IsPlace IsReadFrom (printedNumbers row column?).toList row
      ((column?.map Int.ofNat).getD (-1)) := by
  have first := Decimal.isReadFrom_toString row_small
  cases column? with
  | none =>
    have shape : (printedNumbers row none).toList = ':' :: ((toString row).toList ++ [':']) := by
      simp [printedNumbers]
    rw [shape]
    exact .row first
  | some column =>
    have shape : (printedNumbers row (some column)).toList =
        ':' :: ((toString row).toList ++ ':' :: ((toString column).toList ++ [':'])) := by
      simp [printedNumbers]
    rw [shape]
    exact .column first (Decimal.isReadFrom_toString (column_small column rfl))

/-- What is printed is read back, whatever the message says. -/
theorem read?_printed {path : String} (isPath : IsPath path.toList)
    (free : ¬HoldsMarker path.toList) {row : Nat} (row_small : row < 2 ^ 31) {column? : Option Nat}
    (column_small : ∀ column ∈ column?, column < 2 ^ 31) {severity : String}
    (known : severity ∈ severities) (message : String) :
    read? (printed path row column? severity message) =
      .ok (some ⟨⟨path, row, (column?.map Int.ofNat).getD (-1)⟩, severity,
        strippedStart message⟩) := by
  have place := printedNumbers_isPlace row_small column_small
  have text : (printed path row column? severity message).toList = path.toList ++
      ((printedNumbers row column?).toList ++ (marker severity ++ ' ' :: message.toList)) := by
    simp [printed, marker]
  refine read?_eq_some_iff.mpr ⟨?_, ' ' :: message.toList, ?_, ?_⟩
  · have apart : ∀ e, (marker severity ++ ' ' :: message.toList).head? = some e →
        isDigit e = false := by
      intro e first
      obtain rfl := Option.some.inj first
      exact Decimal.space_isDigit
    rw [text, isPath.read? place apart, String.ofList_toList]
  · rw [text]
    exact isFirstMarker_of_place known place free
  · rfl

theorem isPath_ofDrive : IsPath "C:1: error.c".toList where
  filled := by decide
  short := by decide
  notLetter := by simp
  unplaced := by
    intro i d colon standing digit
    have letter : startsWithLetter "C:1: error.c".toList = true := by decide +kernel
    have places : ∀ i < "C:1: error.c".toList.length, "C:1: error.c".toList[i]? = some ':' →
        i = 1 ∨ "C:1: error.c".toList[i + 1]? = some ' ' := by decide
    obtain ⟨within, -⟩ := List.getElem?_eq_some_iff.mp colon
    rcases places i within colon with drive | blank
    · exact ⟨drive, letter⟩
    · rw [blank] at standing
      obtain rfl := Option.some.inj standing
      rw [Decimal.space_isDigit] at digit
      contradiction

/-- The colon of the drive has a digit behind it, and the message holds a diagnostic. -/
theorem read?_printed_drive :
    IsPath "C:1: error.c".toList ∧ ¬HoldsMarker "C:1: error.c".toList ∧
      2147483647 < 2 ^ 31 ∧ (∀ column ∈ some 0, column < 2 ^ 31) ∧ "note" ∈ severities ∧
      read? "C:1: error.c:2147483647:0: note:  error: b.c:3:4: warning:" =
        .ok (some ⟨⟨"C:1: error.c", 2147483647, 0⟩, "note", "error: b.c:3:4: warning:"⟩) := by
  have free : ¬HoldsMarker "C:1: error.c".toList := by decide +kernel
  have row_small : 2147483647 < 2 ^ 31 := by omega
  have column_small : ∀ column ∈ some 0, column < 2 ^ 31 := by simp
  have known : "note" ∈ severities := by decide
  have read := read?_printed isPath_ofDrive free row_small column_small known
    " error: b.c:3:4: warning:"
  have row : toString 2147483647 = "2147483647" := by
    simp [Nat.toString_eq_repr, Nat.repr_eq_ofList_toDigits, Nat.toDigits_eq_if, Nat.digitChar]
  have text : printed "C:1: error.c" 2147483647 (some 0) "note" " error: b.c:3:4: warning:" =
      "C:1: error.c:2147483647:0: note:  error: b.c:3:4: warning:" := by
    rw [printed, printedNumbers, row]
    decide +kernel
  have message : strippedStart " error: b.c:3:4: warning:" = "error: b.c:3:4: warning:" := by
    decide +kernel
  rw [text, message] at read
  exact ⟨isPath_ofDrive, free, row_small, column_small, known, read⟩

end Diagnostic

end BuildLog
