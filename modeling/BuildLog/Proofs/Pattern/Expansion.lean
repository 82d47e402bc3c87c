import BuildLog.Pattern.Alias
import BuildLog.Pattern.Token
import BuildLog.Proofs.Pattern.Like

/-! The second spelling of named groups on the symbols of a pattern: a `P` comes in before an angle
if a parenthesis and a question mark stand in front of it and a name follows. Neither a backslash
before the parenthesis nor brackets around it are looked at. -/
namespace BuildLog.Pattern

/-- A place among symbols: those taken, last first, and those to come. -/
structure Cursor where
  before : List Token
  ahead : List Token

def isParenthesisToken (t : Token) : Bool := t == .char '(' || t == .escape '('

namespace Cursor

def whole (c : Cursor) : List Token := c.before.reverse ++ c.ahead

/-- An angle is next that begins a name in the second spelling, as it seems. -/
def isSite : Cursor → Bool
  | ⟨.char '?' :: t :: _, .char '<' :: .char n :: _⟩ => isParenthesisToken t && opensName n
  | _ => false

/-- A bracket stands in front, and so many members behind it, none of which closes the set. -/
def IsInSet (c : Cursor) (members : List Token) : Prop :=
  ∃ outside caret, c.before.reverse = outside ++ .char '[' :: (caret ++ members) ∧
    (caret = [] ∨ caret = [.char '^']) ∧ .char ']' ∉ members.tail

/-- What begins here is no group: its parenthesis is escaped, or it is a member of a set. -/
def IsLookalike (c : Cursor) : Prop :=
  c.isSite = true ∧ (c.before.tail.head? = some (.escape '(') ∨ ∃ members, c.IsInSet members)

end Cursor

theorem Cursor.exists_of_isSite {c : Cursor} (site : c.isSite = true) :
    ∃ t older n rest, isParenthesisToken t = true ∧ opensName n = true ∧
      c = ⟨.char '?' :: t :: older, .char '<' :: .char n :: rest⟩ := by
  unfold isSite at site
  split at site
  next t older n rest =>
    obtain ⟨opening, name⟩ := Bool.and_eq_true_iff.mp site
    exact ⟨t, older, n, rest, opening, name, rfl⟩
  · cases site

/-- Something in a pattern looks like a named group in the second spelling and is none. A bracket
in a comment passes for one that opens a set. -/
def HasLookalike (text : String) : Prop :=
  ∃ c : Cursor, c.whole = (tokens text.toList).1 ∧ c.IsLookalike

/-- The symbols to come with a `P` at each site, the symbols before them given last first. -/
def expanded (before : List Token) : List Token → List Token
  | [] => []
  | t :: rest =>
    if Cursor.isSite ⟨before, t :: rest⟩ then .char 'P' :: t :: expanded (t :: before) rest
    else t :: expanded (t :: before) rest

theorem exists_of_tokens_char {x : Char} {cs : List Char} {ts : List Token}
    (first : (tokens cs).1 = .char x :: ts) : ∃ rest, cs = x :: rest ∧ (tokens rest).1 = ts := by
  unfold tokens at first
  split at first
  · cases first
  · cases first
  · cases first
  next c rest _ _ =>
    cases first
    exact ⟨rest, rfl, rfl⟩

/-- Where no name in the second spelling is opened, none begins behind the opening symbol. -/
theorem isSite_behind_opening {cs : List Char}
    (other : ∀ n rest, cs = '?' :: '<' :: n :: rest → opensName n = false) {t u : Token}
    {before ahead : List Token} (later : (tokens cs).1 = u :: ahead) :
    Cursor.isSite ⟨u :: t :: before, ahead⟩ = false := by
  refine Bool.eq_false_iff.mpr fun site => ?_
  obtain ⟨_, _, n, _, -, opens, same⟩ := Cursor.exists_of_isSite site
  cases same
  obtain ⟨afterMark, rfl, angle⟩ := exists_of_tokens_char later
  obtain ⟨afterAngle, rfl, name⟩ := exists_of_tokens_char angle
  obtain ⟨afterName, rfl, -⟩ := exists_of_tokens_char name
  rw [other n afterName rfl] at opens
  cases opens

theorem isSite_behind_other {t : Token} (other : isParenthesisToken t = false) (u : Token)
    (before ahead : List Token) : Cursor.isSite ⟨u :: t :: before, ahead⟩ = false := by
  refine Bool.eq_false_iff.mpr fun site => ?_
  obtain ⟨_, _, _, _, opening, -, same⟩ := Cursor.exists_of_isSite site
  cases same
  rw [other] at opening
  cases opening

theorem isSite_other {t : Token} (other : t ≠ .char '<') (before ahead : List Token) :
    Cursor.isSite ⟨before, t :: ahead⟩ = false := by
  refine Bool.eq_false_iff.mpr fun site => ?_
  obtain ⟨_, _, _, _, -, -, same⟩ := Cursor.exists_of_isSite site
  cases same
  exact other rfl

/-- Neither here nor one symbol further a site begins. -/
def Cursor.IsApart (c : Cursor) : Prop :=
  c.isSite = false ∧ ∀ t rest, c.ahead = t :: rest → Cursor.isSite ⟨t :: c.before, rest⟩ = false

theorem expanded_cons {before ahead : List Token} {t : Token}
    (plain : Cursor.isSite ⟨before, t :: ahead⟩ = false) :
    expanded before (t :: ahead) = t :: expanded (t :: before) ahead := by
  rw [expanded, if_neg (by simp [plain])]

theorem expanded_site {before ahead : List Token} {t : Token}
    (site : Cursor.isSite ⟨before, t :: ahead⟩ = true) :
    expanded before (t :: ahead) = .char 'P' :: t :: expanded (t :: before) ahead := by
  rw [expanded, if_pos site]

/-- What the two expansions of a text make of it, a backslash held in front of it or none. -/
def ExpandsAlike (cs expanded' : List Char) : Prop :=
  ∀ before held, held = [] ∨ held = ['\\'] →
    Cursor.IsApart ⟨before, (tokens (held ++ cs)).1⟩ →
    tokens (held ++ expanded') =
      (expanded before (tokens (held ++ cs)).1, (tokens (held ++ cs)).2)

/-- A symbol that is complete is kept. -/
theorem tokens_symbol {t : Token} {cs expanded' symbol : List Char}
    (complete : ∀ rest, tokens (symbol ++ rest) = (t :: (tokens rest).1, (tokens rest).2))
    (other : isParenthesisToken t = true →
      ∀ n rest, cs = '?' :: '<' :: n :: rest → opensName n = false)
    (later : ExpandsAlike cs expanded') {before : List Token}
    (apart : Cursor.IsApart ⟨before, (tokens (symbol ++ cs)).1⟩) :
    tokens (symbol ++ expanded') =
      (expanded before (tokens (symbol ++ cs)).1, (tokens (symbol ++ cs)).2) := by
  rw [complete] at apart ⊢
  rw [complete, expanded_cons apart.1]
  have next : Cursor.IsApart ⟨t :: before, (tokens cs).1⟩ := by
    refine ⟨apart.2 t _ rfl, ?_⟩
    intro u ahead same
    cases opening : isParenthesisToken t with
    | true => exact isSite_behind_opening (other opening) same
    | false => exact isSite_behind_other opening u before ahead
  have kept := later (t :: before) [] (.inl rfl) next
  rw [List.nil_append, List.nil_append] at kept
  rw [kept]

/-- A character is kept where no name in the second spelling is opened. -/
theorem expandsAlike_cons {c : Char} {cs expanded' : List Char}
    (other : c = '(' → ∀ n rest, cs = '?' :: '<' :: n :: rest → opensName n = false)
    (later : ExpandsAlike cs expanded') : ExpandsAlike (c :: cs) (c :: expanded') := by
  rintro before held (rfl | rfl) apart
  · by_cases backslash : c = '\\'
    · subst backslash
      exact later before ['\\'] (.inr rfl) apart
    · have complete (rest : List Char) : tokens ([c] ++ rest) = _ := Like.tokens_char backslash rest
      refine tokens_symbol complete ?_ later apart
      intro opening
      exact other (by simpa [isParenthesisToken] using opening)
  · have complete (rest : List Char) :
        tokens (['\\', c] ++ rest) = (.escape c :: (tokens rest).1, (tokens rest).2) := rfl
    refine tokens_symbol complete ?_ later apart
    intro opening
    exact other (by simpa [isParenthesisToken] using opening)

/-- A name in the second spelling is opened, by a parenthesis or by one that is escaped. -/
theorem expandsAlike_site {n : Char} {cs expanded' : List Char} (name : opensName n = true)
    (later : ExpandsAlike (n :: cs) expanded') :
    ExpandsAlike ('(' :: '?' :: '<' :: n :: cs) ('(' :: '?' :: 'P' :: '<' :: expanded') := by
  intro before held one apart
  obtain ⟨t, opening, complete⟩ : ∃ t, isParenthesisToken t = true ∧
      ∀ rest, tokens (held ++ '(' :: rest) = (t :: (tokens rest).1, (tokens rest).2) := by
    rcases one with rfl | rfl
    · exact ⟨.char '(', rfl, Like.tokens_char (by decide)⟩
    · exact ⟨.escape '(', rfl, fun _ => rfl⟩
  have plain : n ≠ '\\' := by
    rintro rfl
    cases name
  have mark (rest : List Char) := Like.tokens_char (c := '?') (by decide) rest
  have angle (rest : List Char) := Like.tokens_char (c := '<') (by decide) rest
  have letter (rest : List Char) := Like.tokens_char (c := 'P') (by decide) rest
  have far : Cursor.IsApart
      ⟨.char '<' :: .char '?' :: t :: before, (tokens (n :: cs)).1⟩ :=
    ⟨rfl, fun u ahead _ => isSite_behind_other rfl u _ ahead⟩
  have kept := later _ [] (.inl rfl) far
  rw [List.nil_append, List.nil_append, Like.tokens_char plain] at kept
  rw [complete] at apart ⊢
  rw [complete, expanded_cons apart.1]
  simp only [mark, angle, letter, Like.tokens_char plain, kept]
  have site : Cursor.isSite
      ⟨.char '?' :: t :: before, .char '<' :: .char n :: (tokens cs).1⟩ = true := by
    simp only [Cursor.isSite, opening, name, Bool.and_self]
  have beforeMark := isSite_other (t := .char '?') (by decide) (t :: before)
  rw [expanded_cons (beforeMark _), expanded_site site, expanded_cons rfl]

theorem expandsAlike (cs : List Char) : ExpandsAlike cs (expandAlias cs) := by
  fun_induction expandAlias cs with
  | case1 n rest name ih => exact expandsAlike_site name ih
  | case2 n rest noName ih =>
    refine expandsAlike_cons ?_ ih
    rintro - m later same
    cases same
    simpa using noName
  | case3 c rest other ih =>
    refine expandsAlike_cons ?_ ih
    rintro rfl n later rfl
    exact (other n later rfl rfl).elim
  | case4 =>
    rintro before held (rfl | rfl) - <;> rfl

theorem tokens_expandAlias (cs : List Char) :
    tokens (expandAlias cs) = (expanded [] (tokens cs).1, (tokens cs).2) := by
  refine expandsAlike cs [] [] (.inl rfl) ⟨rfl, ?_⟩
  intro t ahead _
  refine Bool.eq_false_iff.mpr fun site => ?_
  obtain ⟨_, _, _, _, -, -, same⟩ := Cursor.exists_of_isSite site
  cases same

end BuildLog.Pattern
