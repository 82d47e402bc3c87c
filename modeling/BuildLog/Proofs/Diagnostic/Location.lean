import BuildLog.Diagnostic
import BuildLog.Proofs.Decimal.Numeral

/-! What is read as a location at the beginning of a line. The name of the file ends at the first
colon before a digit, and numbers are whatever runs of digits stand between the next colons. -/
namespace BuildLog

open Text

namespace Location

open Decimal (IsReadFrom colon_isDigit space_isDigit)

/-- A colon before a digit; the colon of a drive letter does not count. -/
structure EndsAt (drive : Bool) (offset : Nat) (cs : List Char) (i : Nat) : Prop where
  colon : cs[i]? = some ':'
  digit : ∃ d, cs[i + 1]? = some d ∧ isDigit d = true
  notDrive : ¬(offset + i = 1 ∧ drive = true)

theorem endsAt_succ {drive : Bool} {offset : Nat} {c : Char} {cs : List Char} {i : Nat} :
    EndsAt drive offset (c :: cs) (i + 1) ↔ EndsAt drive (offset + 1) cs i := by
  have place : offset + (i + 1) = offset + 1 + i := by omega
  constructor
  · rintro ⟨colon, digit, notDrive⟩
    exact ⟨colon, digit, by rwa [← place]⟩
  · rintro ⟨colon, digit, notDrive⟩
    exact ⟨colon, digit, by rwa [place]⟩

/-- The search goes from place to place and stops at the first such colon. -/
theorem colonFrom_eq_some_iff {drive : Bool} {offset : Nat} {cs : List Char} {k : Nat} :
    colonFrom drive offset cs = some k ↔
      ∃ i, k = offset + i ∧ EndsAt drive offset cs i ∧ ∀ j < i, ¬EndsAt drive offset cs j := by
  have passed {c : Char} {rest : List Char} {offset : Nat}
      (apart : ¬EndsAt drive offset (c :: rest) 0)
      (ih : colonFrom drive (offset + 1) rest = some k ↔ ∃ i, k = offset + 1 + i ∧
        EndsAt drive (offset + 1) rest i ∧ ∀ j < i, ¬EndsAt drive (offset + 1) rest j) :
      colonFrom drive (offset + 1) rest = some k ↔ ∃ i, k = offset + i ∧
        EndsAt drive offset (c :: rest) i ∧ ∀ j < i, ¬EndsAt drive offset (c :: rest) j := by
    rw [ih]
    constructor
    · rintro ⟨i, rfl, ends, first⟩
      refine ⟨i + 1, by omega, endsAt_succ.mpr ends, fun j before => ?_⟩
      cases j with
      | zero => exact apart
      | succ j => exact fun earlier => first j (by omega) (endsAt_succ.mp earlier)
    · rintro ⟨i, rfl, ends, first⟩
      cases i with
      | zero => exact absurd ends apart
      | succ i =>
        refine ⟨i, by omega, endsAt_succ.mp ends, fun j before earlier => ?_⟩
        exact first (j + 1) (by omega) (endsAt_succ.mpr earlier)
  fun_induction colonFrom drive offset cs with
  | case1 offset d rest found =>
    obtain ⟨digit, notDrive⟩ := Bool.and_eq_true_iff.mp found
    have ends : EndsAt drive offset (':' :: d :: rest) 0 :=
      ⟨rfl, ⟨d, rfl, digit⟩, by grind⟩
    constructor
    · intro same
      obtain rfl := Option.some.inj same
      exact ⟨0, rfl, ends, nofun⟩
    · rintro ⟨i, rfl, -, first⟩
      cases i with
      | zero => rfl
      | succ i => exact absurd ends (first 0 (by omega))
  | case2 offset d rest missed ih =>
    refine passed ?_ ih
    rintro ⟨-, ⟨e, standing, digit⟩, notDrive⟩
    obtain rfl := Option.some.inj standing
    exact missed (Bool.and_eq_true_iff.mpr ⟨digit, by grind⟩)
  | case3 offset c rest other ih =>
    refine passed ?_ ih
    rintro ⟨colon, ⟨d, standing, -⟩, -⟩
    cases rest with
    | nil => cases standing
    | cons d rest => exact other d rest (Option.some.inj colon) rfl
  | case4 offset =>
    refine ⟨nofun, ?_⟩
    rintro ⟨i, -, ⟨colon, -, -⟩, -⟩
    cases colon

abbrev EndsFile (line : List Char) (i : Nat) : Prop := EndsAt (startsWithLetter line) 0 line i

/-- Beyond the longest name of a file there is enough room for the colon and the digit. -/
theorem endsAt_take {drive : Bool} {cs : List Char} {i : Nat} (near : i ≤ longestFile) :
    EndsAt drive 0 (cs.take (longestFile + 20)) i ↔ EndsAt drive 0 cs i := by
  have colon : (cs.take (longestFile + 20))[i]? = cs[i]? := List.getElem?_take_of_lt (by omega)
  have digit : (cs.take (longestFile + 20))[i + 1]? = cs[i + 1]? :=
    List.getElem?_take_of_lt (by omega)
  constructor
  · rintro ⟨c, d, notDrive⟩
    exact ⟨colon ▸ c, digit ▸ d, notDrive⟩
  · rintro ⟨c, d, notDrive⟩
    exact ⟨colon ▸ c, digit ▸ d, notDrive⟩

theorem fileEnd?_eq_some_iff {line : List Char} {i : Nat} :
    fileEnd? line = some i ↔
      (0 < i ∧ i ≤ longestFile) ∧ EndsFile line i ∧ ∀ j < i, ¬EndsFile line j := by
  rw [fileEnd?, Option.filter_eq_some_iff, colonFrom_eq_some_iff, Bool.and_eq_true,
    decide_eq_true_eq, decide_eq_true_eq]
  simp only [Nat.zero_add, exists_eq_left']
  rw [and_comm]
  refine and_congr_right fun ⟨_, near⟩ => and_congr (endsAt_take near) ?_
  refine forall₂_congr fun j before => not_congr (endsAt_take ?_)
  omega

/-- The name, the colon and what stands behind it make the line. -/
theorem fileEnd?_split {line : List Char} {i : Nat} (ended : fileEnd? line = some i) :
    line = line.take i ++ ':' :: line.drop (i + 1) ∧ (line.take i).length = i := by
  obtain ⟨colon, -, -⟩ := (fileEnd?_eq_some_iff.mp ended).2.1
  obtain ⟨within, standing⟩ := List.getElem?_eq_some_iff.mp colon
  constructor
  · rw [← standing, List.getElem_cons_drop, List.take_append_drop]
  · rw [List.length_take, Nat.min_eq_left (Nat.le_of_lt within)]

theorem beforeColon?_eq_some_iff {cs before after : List Char} :
    beforeColon? cs = some (before, after) ↔ cs = before ++ ':' :: after ∧ ':' ∉ before := by
  unfold beforeColon?
  constructor
  · intro cut
    split at cut
    · cases cut
    next c rest behind =>
      cases cut
      have first : (c != ':') = false := by
        have head := List.head?_dropWhile_not (· != ':') cs
        rw [behind] at head
        simpa using head
      obtain rfl : c = ':' := by simpa using first
      refine ⟨?_, fun member => ?_⟩
      · rw [← behind, List.takeWhile_append_dropWhile]
      · simpa using List.mem_takeWhile_imp member
  · rintro ⟨rfl, apart⟩
    have other : ∀ c ∈ before, (c != ':') = true := by
      intro c member
      rw [bne_iff_ne]
      rintro rfl
      exact apart member
    simp [List.dropWhile_append_of_pos other, List.takeWhile_append_of_pos other]

theorem number?_eq_some_iff {digits : List Char} {n : Int} :
    number? digits = .ok (some n) ↔ IsReadFrom digits n := by
  by_cases run : ∀ c ∈ digits, isDigit c = true
  · rw [← Decimal.boundedPrefix_of_digits run]
    cases digits with
    | nil =>
      have nothing : Decimal.boundedPrefix 32 [] = number? [] := by decide
      rw [nothing]
    | cons c rest => rw [number?, if_neg (by simpa using run)]
  · refine ⟨fun read => ?_, fun read => absurd read.run run⟩
    rw [number?, if_pos (by simpa using Or.inr run)] at read
    cases read

/-- A text that does not begin with a digit has no number in front. -/
theorem number?_of_head {cs : List Char} (other : ∀ c, cs.head? = some c → isDigit c = false) :
    number? cs = .ok none := by
  cases cs with
  | nil => rfl
  | cons c rest => simp [number?, other c rfl]

/-- The numbers of a location, between their colons; -1 stands for a column that is not told. -/
inductive IsPlace (reads : List Char → Int → Prop) : List Char → Int → Int → Prop
  | row {row : List Char} {n : Int} (first : reads row n) :
      IsPlace reads (':' :: (row ++ [':'])) n (-1)
  | column {row column : List Char} {n c : Int} (first : reads row n) (second : reads column c) :
      IsPlace reads (':' :: (row ++ ':' :: (column ++ [':']))) n c

theorem IsPlace.exists_cons {numbers : List Char} {n c : Int}
    (place : IsPlace IsReadFrom numbers n c) :
    ∃ rest, numbers = ':' :: rest ∧ ' ' ∉ rest := by
  cases place with
  | row first =>
    refine ⟨_, rfl, ?_⟩
    simp [first.not_mem space_isDigit]
  | column first second =>
    refine ⟨_, rfl, ?_⟩
    simp [first.not_mem space_isDigit, second.not_mem space_isDigit]

theorem columnNumber_cases {rest : List Char} {c : Int} (read : columnNumber rest = .ok c) :
    c = -1 ∨ ∃ column behind, rest = column ++ ':' :: behind ∧ IsReadFrom column c := by
  unfold columnNumber at read
  split at read
  · cases read
    exact .inl rfl
  next column behind cut =>
    obtain ⟨rfl, -⟩ := beforeColon?_eq_some_iff.mp cut
    cases number : number? column with
    | error e =>
      rw [number] at read
      cases read
    | ok c? =>
      rw [number] at read
      cases c? with
      | none =>
        cases read
        exact .inl rfl
      | some d =>
        cases read
        exact .inr ⟨column, behind, rfl, number?_eq_some_iff.mp number⟩

theorem beforeColon?_of_isReadFrom {digits : List Char} {n : Int} (read : IsReadFrom digits n)
    (behind : List Char) : beforeColon? (digits ++ ':' :: behind) = some (digits, behind) :=
  beforeColon?_eq_some_iff.mpr ⟨rfl, read.not_mem colon_isDigit⟩

theorem columnNumber_of_isReadFrom {column : List Char} {c : Int} (read : IsReadFrom column c)
    (behind : List Char) : columnNumber (column ++ ':' :: behind) = .ok c := by
  simp only [columnNumber, beforeColon?_of_isReadFrom read, number?_eq_some_iff.mpr read]
  rfl

theorem columnNumber_of_head {rest : List Char}
    (other : ∀ c, rest.head? = some c → isDigit c = false) : columnNumber rest = .ok (-1) := by
  unfold columnNumber
  split
  · rfl
  next column behind cut =>
    obtain ⟨rfl, -⟩ := beforeColon?_eq_some_iff.mp cut
    rw [number?_of_head fun c first => other c (by rw [List.head?_append, first]; rfl)]
    rfl

/-- A location is the name of a file, a number and perhaps a second number, with a colon behind each
of them. -/
theorem read?_eq_some_iff {line : List Char} {l : Location} :
    read? line = .ok (some l) ↔ ∃ row rest,
      line = l.file.toList ++ ':' :: (row ++ ':' :: rest) ∧
      fileEnd? line = some l.file.toList.length ∧
      IsReadFrom row l.line ∧ columnNumber rest = .ok l.column := by
  constructor
  · intro read
    unfold read? at read
    split at read
    · cases read
    next i ended =>
      split at read
      · cases read
      next row rest cut =>
        cases number : number? row with
        | error e =>
          rw [number] at read
          cases read
        | ok n? =>
          rw [number] at read
          cases n? with
          | none => cases read
          | some n =>
            cases column : columnNumber rest with
            | error e =>
              simp only [column, bind, Except.bind] at read
              cases read
            | ok c =>
              simp only [column, bind, Except.bind, pure, Except.pure, Except.ok.injEq,
                Option.some.injEq] at read
              subst read
              obtain ⟨whole, length⟩ := fileEnd?_split ended
              obtain ⟨behind, -⟩ := beforeColon?_eq_some_iff.mp cut
              refine ⟨row, rest, ?_, ?_, number?_eq_some_iff.mp number, column⟩
              · rw [String.toList_ofList, ← behind]
                exact whole
              · rw [String.toList_ofList, length]
                exact ended
  · rintro ⟨row, rest, whole, ended, number, column⟩
    have behind : line.drop (l.file.toList.length + 1) = row ++ ':' :: rest := by
      rw [whole, ← List.drop_drop, List.drop_left]
      rfl
    have file : line.take l.file.toList.length = l.file.toList := by rw [whole, List.take_left]
    simp only [read?, ended, behind, beforeColon?_of_isReadFrom number,
      number?_eq_some_iff.mpr number, column, file, String.ofList_toList, bind, Except.bind, pure,
      Except.pure]

theorem read?_place {line : List Char} {l : Location} (read : read? line = .ok (some l)) :
    ∃ numbers behind, line = l.file.toList ++ (numbers ++ behind) ∧
      fileEnd? line = some l.file.toList.length ∧ IsPlace IsReadFrom numbers l.line l.column := by
  obtain ⟨row, rest, whole, ended, first, column⟩ := read?_eq_some_iff.mp read
  rcases columnNumber_cases column with none | ⟨digits, behind, rfl, second⟩
  · refine ⟨':' :: (row ++ [':']), rest, ?_, ended, ?_⟩
    · simp [whole]
    · rw [none]
      exact .row first
  · refine ⟨':' :: (row ++ ':' :: (digits ++ [':'])), behind, ?_, ended, .column first second⟩
    simp [whole]

end Location

end BuildLog
