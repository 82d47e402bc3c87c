import BuildLog.Proofs.Diagnostic.Marker

/-! What is accepted as a diagnostic. A line that is read as one has all its parts: the name of a
file, numbers between colons, a marker and a message. But digits without a place value are taken
for digits of the numbers, and the marker may stand in front of them. -/
namespace BuildLog

open Decimal (IsNotation IsReadFrom)
open Text

namespace Location.IsPlace

theorem of_notation {numbers : List Char} {n c : Int} (place : IsPlace IsReadFrom numbers n c)
    (decimal : ∀ d ∈ numbers, isDigit d = true → isDecimal d = true) :
    IsPlace IsNotation numbers n c := by
  have written {digits : List Char} {m : Int} (read : IsReadFrom digits m)
      (inside : ∀ d ∈ digits, d ∈ numbers) : IsNotation digits m :=
    read.isNotation_iff.mpr fun d member => decimal d (inside d member) (read.run d member)
  cases place with
  | row first => exact .row (written first (by simp +contextual))
  | column first second =>
    exact .column (written first (by simp +contextual)) (written second (by simp +contextual))

theorem isDecimal {numbers : List Char} {n c : Int} (place : IsPlace IsNotation numbers n c) :
    ∀ d ∈ numbers, isDigit d = true → isDecimal d = true := by
  intro d member digit
  have other : d ≠ ':' := by
    rintro rfl
    rw [Decimal.colon_isDigit] at digit
    contradiction
  cases place with
  | row first =>
    simp only [List.mem_cons, List.mem_append, List.not_mem_nil, other, false_or,
      or_false] at member
    exact first.decimal d member
  | column first second =>
    simp only [List.mem_cons, List.mem_append, List.not_mem_nil, other, false_or,
      or_false] at member
    exact member.elim (first.decimal d) (second.decimal d)

/-- Digits up to a colon can be told from the text alone. -/
theorem digits_unique {a b x y : List Char} {m n : Int} (first : IsReadFrom a m)
    (second : IsNotation b n) (same : a ++ ':' :: x = b ++ ':' :: y) : a = b ∧ x = y := by
  have apart : ':' ∉ b := by
    intro member
    have digit := Decimal.isDigit_of_isDecimal (second.decimal _ member)
    rw [Decimal.colon_isDigit] at digit
    contradiction
  have cut := beforeColon?_eq_some_iff.mpr ⟨same, apart⟩
  rw [beforeColon?_of_isReadFrom first] at cut
  exact Prod.mk.inj (Option.some.inj cut)

/-- Where a column is told on one side it is told on the other, and then the numbers agree. -/
theorem unique {numbers others behind rest : List Char} {n c : Int}
    (place : IsPlace IsReadFrom numbers n c) (other : IsPlace IsNotation others n c)
    (same : numbers ++ behind = others ++ rest) : numbers = others ∧ behind = rest := by
  cases place with
  | row first =>
    cases other with
    | row written =>
      have equal := digits_unique first written (by simpa using same)
      exact ⟨by rw [equal.1], equal.2⟩
    | column written second => exact absurd second.nonneg (by decide)
  | column first second =>
    cases other with
    | row written => exact absurd second.front.nonneg (by decide)
    | column written third =>
      obtain ⟨rfl, later⟩ := digits_unique first written (by simpa using same)
      have equal := digits_unique second third (by simpa using later)
      exact ⟨by rw [equal.1], equal.2⟩

end Location.IsPlace

namespace Diagnostic

open Location (IsPlace)

/-- The parts of a line: the name of a file, what is read as numbers, and a marker with a message
behind it. Where the marker stands is left open. -/
structure HasParts (reads : List Char → Int → Prop) (line : List Char) (d : Diagnostic)
    (numbers behind after : List Char) : Prop where
  text : line = d.location.file.toList ++ (numbers ++ behind)
  filled : 1 ≤ d.location.file.length
  short : d.location.file.length ≤ Location.longestFile
  place : IsPlace reads numbers d.location.line d.location.column
  marked : IsFirstMarker line d.severity after
  message : d.message = String.ofList (trimStart after)

/-- The line is a diagnostic: its numbers are in decimal notation, and the first marker in it
stands behind them. -/
def IsWritten (line : List Char) (d : Diagnostic) : Prop :=
  ∃ numbers behind after, HasParts IsNotation line d numbers behind after ∧
    marker d.severity ++ after <:+ behind

theorem read?_hasParts {line : String} {d : Diagnostic} (read : read? line = .ok (some d)) :
    ∃ numbers behind after, HasParts IsReadFrom line.toList d numbers behind after := by
  obtain ⟨located, after, marked, message⟩ := read?_eq_some_iff.mp read
  obtain ⟨numbers, behind, text, ended, place⟩ := Location.read?_place located
  obtain ⟨⟨filled, short⟩, -, -⟩ := Location.fileEnd?_eq_some_iff.mp ended
  rw [String.length_toList] at filled short
  exact ⟨numbers, behind, after, text, filled, short, place, marked, message⟩

/-- The first marker stands behind the numbers unless there is one in front of them. -/
theorem HasParts.later_iff {line : List Char} {d : Diagnostic} {numbers behind after : List Char}
    (parts : HasParts IsReadFrom line d numbers behind after) :
    marker d.severity ++ after <:+ behind ↔ ¬HoldsMarker d.location.file.toList := by
  constructor
  · rintro later ⟨t, known, before, more, inside⟩
    obtain ⟨rest, rfl, -⟩ := parts.place.exists_cons
    -- From such a marker on the line is longer than what stands behind the numbers.
    have ends : marker t ++ (more ++ (rest ++ behind)) <:+ line := by
      have text := calc line
          _ = (d.location.file.toList ++ [':']) ++ (rest ++ behind) := by simp [parts.text]
          _ = before ++ (marker t ++ (more ++ (rest ++ behind))) := by simp [← inside]
      rw [text]
      exact List.suffix_append _ _
    have first := parts.marked.first t known _ (List.prefix_append _ _) ends
    have within := later.length_le
    simp only [List.length_append] at first within
    have filled : 0 < (marker t).length := by simp [marker]
    omega
  · intro free
    rcases marker_cases parts.marked.known parts.place (parts.text ▸ parts.marked.stands) with
      later | earlier
    · exact later
    · exact absurd earlier free

/-- A line that is read as a diagnostic has the parts of one. It is a diagnostic unless its numbers
hold digits without a place value or a marker stands in front of them. -/
theorem read?_accepts {line : String} {d : Diagnostic} (read : read? line = .ok (some d)) :
    ∃ numbers behind after, HasParts IsReadFrom line.toList d numbers behind after ∧
      (IsWritten line.toList d ↔
        (∀ c ∈ numbers, isDigit c = true → isDecimal c = true) ∧
          ¬HoldsMarker d.location.file.toList) := by
  obtain ⟨numbers, behind, after, parts⟩ := read?_hasParts read
  refine ⟨numbers, behind, after, parts, ?_, ?_⟩
  · rintro ⟨others, rest, later, written, stands⟩
    have same : numbers ++ behind = others ++ rest :=
      List.append_cancel_left (parts.text.symm.trans written.text)
    obtain ⟨rfl, rfl⟩ := parts.place.unique written.place same
    have found := firstMarker?_eq_some_iff.mpr parts.marked
    rw [firstMarker?_eq_some_iff.mpr written.marked] at found
    cases found
    exact ⟨written.place.isDecimal, parts.later_iff.mp stands⟩
  · rintro ⟨decimal, free⟩
    exact ⟨numbers, behind, after, { parts with place := parts.place.of_notation decimal },
      parts.later_iff.mpr free⟩

/-- The marker ends with the colon behind the name of the file, and what was read as numbers is a
part of the message. -/
theorem read?_accepts_markedFile :
    read? "x error:1:2: note: y" = .ok (some ⟨⟨"x error", 1, 2⟩, "error", "1:2: note: y"⟩) ∧
      ¬IsWritten "x error:1:2: note: y".toList ⟨⟨"x error", 1, 2⟩, "error", "1:2: note: y"⟩ := by
  have read : read? "x error:1:2: note: y" =
      .ok (some ⟨⟨"x error", 1, 2⟩, "error", "1:2: note: y"⟩) := by decide +kernel
  have holds : HoldsMarker "x error".toList := by decide
  obtain ⟨numbers, behind, after, -, exact⟩ := read?_accepts read
  exact ⟨read, fun written => (exact.mp written).2 holds⟩

end Diagnostic

end BuildLog
