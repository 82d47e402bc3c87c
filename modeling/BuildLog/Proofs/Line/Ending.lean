import BuildLog.Line
import BuildLog.Text.Blank
import BuildLog.Text.Search

/-! Texts with different terminators. Writing every terminator as a line feed keeps the lines of a
text, its blanks and every piece without a terminator, each in its place. -/
namespace BuildLog

namespace Line

theorem return_not_mem_normalizeChars (cs : List Char) : '\r' ∉ normalizeChars cs := by
  fun_induction normalizeChars cs with
  | case1 => simp
  | case2 rest ih => simp [ih]
  | case3 rest apart ih => simp [ih]
  | case4 c rest _ apart ih => simp [ih, Ne.symm apart]

theorem normalizeChars_eq_self {cs : List Char} (plain : '\r' ∉ cs) : normalizeChars cs = cs := by
  fun_induction normalizeChars cs with
  | case1 => rfl
  | case2 rest ih => simp at plain
  | case3 rest apart ih => simp at plain
  | case4 c rest _ apart ih => rw [ih (by simp_all)]

theorem normalizeChars_normalizeChars (cs : List Char) :
    normalizeChars (normalizeChars cs) = normalizeChars cs :=
  normalizeChars_eq_self (return_not_mem_normalizeChars cs)

theorem toList_normalize (s : String) : (normalize s).toList = normalizeChars s.toList :=
  String.toList_ofList

theorem splitFrom_cons {c : Char} (apart : c ≠ '\r') (inside : c ≠ '\n')
    (current rest : List Char) : splitFrom current (c :: rest) = splitFrom (c :: current) rest := by
  rw [splitFrom]
  · exact fun _ same => absurd same apart
  · exact apart
  · exact inside

theorem splitFrom_normalizeChars (current cs : List Char) :
    splitFrom current (normalizeChars cs) = splitFrom current cs := by
  fun_induction normalizeChars cs generalizing current with
  | case1 => rfl
  | case2 rest ih => simp only [splitFrom, ih]
  | case3 rest apart ih => simp only [splitFrom, ih]
  | case4 c rest _ apart ih =>
    by_cases ends : c = '\n'
    · subst ends
      simp only [splitFrom, ih]
    · rw [splitFrom_cons apart ends, splitFrom_cons apart ends, ih]

/-- The lines of a text do not depend on how they end. -/
theorem read_normalize (limit : Int) (content : String) :
    read limit (normalize content) = read limit content := by
  simp only [read, split, toList_normalize, splitFrom_normalizeChars]

theorem normalizeChars_cons {c : Char} (apart : c ≠ '\r') (rest : List Char) :
    normalizeChars (c :: rest) = c :: normalizeChars rest := by
  rw [normalizeChars]
  · exact fun _ same => absurd same apart
  · exact apart

theorem normalizeChars_return {rest : List Char} (single : ∀ tail, rest ≠ '\n' :: tail) :
    normalizeChars ('\r' :: rest) = '\n' :: normalizeChars rest := by
  rw [normalizeChars]
  exact single

/-- What a text becomes before a character that is no line feed does not depend on the rest. -/
theorem normalizeChars_append {c : Char} (inside : c ≠ '\n') (cs rest : List Char) :
    normalizeChars (cs ++ c :: rest) = normalizeChars cs ++ normalizeChars (c :: rest) := by
  fun_induction normalizeChars cs with
  | case1 => rfl
  | case2 tail ih => simp only [List.cons_append, normalizeChars, ih]
  | case3 tail apart ih =>
    have single : ∀ t, tail ++ c :: rest ≠ '\n' :: t := by
      intro t same
      cases tail with
      | nil => exact inside (List.cons.inj same).1
      | cons d tail => exact apart tail (by rw [(List.cons.inj same).1])
    rw [List.cons_append, normalizeChars_return single, ih, List.cons_append]
  | case4 d tail _ apart ih =>
    rw [List.cons_append, normalizeChars_cons apart, ih, List.cons_append]

/-- A character that is no terminator divides a text and what becomes of it alike. -/
theorem normalizeChars_eq_append {c : Char} (inside : c ≠ '\n') {cs before after : List Char}
    (made : normalizeChars cs = before ++ c :: after) :
    ∃ first last, cs = first ++ c :: last ∧ normalizeChars first = before ∧
      normalizeChars last = after := by
  fun_induction normalizeChars cs generalizing before with
  | case1 => simp at made
  | case2 rest ih =>
    cases before with
    | nil => exact absurd (List.cons.inj made).1.symm inside
    | cons d before =>
      obtain ⟨rfl, later⟩ := List.cons.inj made
      obtain ⟨first, last, rfl, rfl, rfl⟩ := ih later
      exact ⟨'\r' :: '\n' :: first, last, rfl, by rw [normalizeChars], rfl⟩
  | case3 rest apart ih =>
    cases before with
    | nil => exact absurd (List.cons.inj made).1.symm inside
    | cons d before =>
      obtain ⟨rfl, later⟩ := List.cons.inj made
      obtain ⟨first, last, rfl, rfl, rfl⟩ := ih later
      refine ⟨'\r' :: first, last, rfl, normalizeChars_return fun tail same => ?_, rfl⟩
      exact apart (tail ++ c :: last) (by rw [same, List.cons_append])
  | case4 d rest _ apart ih =>
    cases before with
    | nil =>
      obtain ⟨rfl, rfl⟩ := List.cons.inj made
      exact ⟨[], rest, rfl, rfl, rfl⟩
    | cons e before =>
      obtain ⟨rfl, later⟩ := List.cons.inj made
      obtain ⟨first, last, rfl, rfl, rfl⟩ := ih later
      exact ⟨d :: first, last, rfl, normalizeChars_cons apart _, rfl⟩

def IsInside (u : List Char) : Prop := u ≠ [] ∧ ∀ c ∈ u, c ≠ '\r' ∧ c ≠ '\n'

instance (u : List Char) : Decidable (IsInside u) :=
  decidable_of_iff ((!u.isEmpty && u.all fun c => c != '\r' && c != '\n') = true)
    (by simp [IsInside])

variable {u : List Char}

theorem normalizeChars_inside_append (inside : ∀ c ∈ u, c ≠ '\r' ∧ c ≠ '\n') (rest : List Char) :
    normalizeChars (u ++ rest) = u ++ normalizeChars rest := by
  induction u with
  | nil => rfl
  | cons c u ih =>
    have first := inside c (by simp)
    rw [List.cons_append, normalizeChars_cons first.1, List.cons_append,
      ih fun d member => inside d (by simp [member])]

/-- A piece of a line stays in its place. -/
theorem normalizeChars_append_inside (piece : IsInside u) (before after : List Char) :
    normalizeChars (before ++ u ++ after) = normalizeChars before ++ u ++ normalizeChars after := by
  obtain ⟨nonempty, inside⟩ := piece
  cases u with
  | nil => exact absurd rfl nonempty
  | cons c u =>
    have first := inside c (by simp)
    rw [List.append_assoc, List.cons_append, normalizeChars_append first.2, List.append_assoc,
      ← List.cons_append, normalizeChars_inside_append inside]

theorem normalizeChars_eq_nil {cs : List Char} (empty : normalizeChars cs = []) : cs = [] := by
  fun_cases normalizeChars cs with
  | case1 => rfl
  | case2 rest => simp [normalizeChars] at empty
  | case3 rest apart => simp [normalizeChars_return apart] at empty
  | case4 c rest _ apart => simp [normalizeChars_cons apart] at empty

theorem normalizeChars_eq_inside_append (inside : ∀ c ∈ u, c ≠ '\r' ∧ c ≠ '\n')
    {cs after : List Char} (made : normalizeChars cs = u ++ after) :
    ∃ last, cs = u ++ last ∧ normalizeChars last = after := by
  induction u generalizing cs with
  | nil => exact ⟨cs, rfl, made⟩
  | cons c u ih =>
    have first := inside c (by simp)
    have made : normalizeChars cs = [] ++ c :: (u ++ after) := made
    obtain ⟨ahead, last, rfl, empty, later⟩ := normalizeChars_eq_append first.2 made
    obtain rfl := normalizeChars_eq_nil empty
    obtain ⟨last, rfl, rfl⟩ := ih (fun d member => inside d (by simp [member])) later
    exact ⟨last, rfl, rfl⟩

/-- A piece of a line has come from the same piece. -/
theorem normalizeChars_eq_append_inside (piece : IsInside u) {cs before after : List Char}
    (made : normalizeChars cs = before ++ u ++ after) :
    ∃ first last, cs = first ++ u ++ last ∧ normalizeChars first = before ∧
      normalizeChars last = after := by
  obtain ⟨nonempty, inside⟩ := piece
  cases u with
  | nil => exact absurd rfl nonempty
  | cons c u =>
    rw [List.append_assoc, List.cons_append] at made
    obtain ⟨first, last, rfl, rfl, later⟩ := normalizeChars_eq_append (inside c (by simp)).2 made
    obtain ⟨last, rfl, rfl⟩ :=
      normalizeChars_eq_inside_append (fun d member => inside d (by simp [member])) later
    exact ⟨first, last, by simp, rfl, rfl⟩

theorem infix_normalizeChars (piece : IsInside u) (cs : List Char) :
    u <:+: normalizeChars cs ↔ u <:+: cs := by
  constructor
  · rintro ⟨before, after, made⟩
    obtain ⟨first, last, rfl, -, -⟩ := normalizeChars_eq_append_inside piece made.symm
    exact ⟨first, last, rfl⟩
  · rintro ⟨first, last, rfl⟩
    exact ⟨_, _, (normalizeChars_append_inside piece first last).symm⟩

/-- Blanks are what becomes of blanks. -/
theorem all_blank_normalizeChars (cs : List Char) :
    (normalizeChars cs).all Text.isBlank = cs.all Text.isBlank := by
  have feed : Text.isBlank '\n' = true := by decide
  have back : Text.isBlank '\r' = true := by decide
  fun_induction normalizeChars cs with
  | case1 => rfl
  | case2 rest ih => simp only [List.all_cons, ih, feed, back, Bool.true_and]
  | case3 rest apart ih => simp only [List.all_cons, ih, feed, back]
  | case4 c rest _ apart ih => simp only [List.all_cons, ih]

/-- Between two pieces of lines the terminators are blanks like others. -/
theorem infix_normalizeChars_around {front back : List Char} (opens : IsInside front)
    (closes : IsInside back) (cs : List Char) :
    (∃ between, between.all Text.isBlank = true ∧ front ++ between ++ back <:+: normalizeChars cs) ↔
      ∃ between, between.all Text.isBlank = true ∧ front ++ between ++ back <:+: cs := by
  constructor
  · rintro ⟨between, blank, before, after, made⟩
    have made : normalizeChars cs = before ++ front ++ (between ++ back ++ after) := by
      simp [← made]
    obtain ⟨first, rest, rfl, -, later⟩ := normalizeChars_eq_append_inside opens made
    obtain ⟨between, last, rfl, rfl, -⟩ := normalizeChars_eq_append_inside closes later
    rw [all_blank_normalizeChars] at blank
    exact ⟨between, blank, first, last, by simp⟩
  · rintro ⟨between, blank, first, last, rfl⟩
    refine ⟨normalizeChars between, by rwa [all_blank_normalizeChars], normalizeChars first,
      normalizeChars last, ?_⟩
    have whole : first ++ (front ++ between ++ back) ++ last =
        first ++ front ++ (between ++ back ++ last) := by simp
    rw [whole, normalizeChars_append_inside opens, normalizeChars_append_inside closes]
    simp

end Line

namespace Text

theorem occursIn_iff (needle cs : List Char) : occursIn needle cs = true ↔ needle <:+: cs := by
  induction cs with
  | nil => simp [occursIn]
  | cons c rest ih => simp [occursIn, List.infix_cons_iff, ih]

/-- A piece of a line is found under every spelling of the terminators. -/
theorem contains_normalize {needle : String} (piece : Line.IsInside needle.toList)
    (content : String) : contains (Line.normalize content) needle = contains content needle := by
  rw [Bool.eq_iff_iff, contains, contains, occursIn_iff, occursIn_iff, Line.toList_normalize,
    Line.infix_normalizeChars piece]

end Text

end BuildLog
