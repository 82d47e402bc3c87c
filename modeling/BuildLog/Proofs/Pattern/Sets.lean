import BuildLog.Proofs.Pattern.Simulation

/-! Escapes and sets read side by side. An escape takes hexadecimal digits at most and comes out the
same. A set may hold sites; then the second one has the letter as a member besides. -/
namespace BuildLog.Pattern

/-- A symbol that neither closes a set nor stands in front of a site. -/
def IsQuiet (t : Token) : Prop :=
  t ≠ .char ']' ∧ t ≠ .char '?' ∧ isParenthesisToken t = false

theorem isQuiet_of_isChar {p : Char → Bool} (bracket : p ']' = false) (mark : p '?' = false)
    (opening : p '(' = false) {t : Token} (member : t.isChar p = true) : IsQuiet t := by
  cases t with
  | escape c => cases member
  | char c =>
    have other {d : Char} (outside : p d = false) : c ≠ d := by
      rintro rfl
      exact Bool.false_ne_true (outside.symm.trans member)
    simp [IsQuiet, isParenthesisToken, other bracket, other mark, other opening]

theorem textOf_isEmpty (ts : List Token) : (textOf ts).isEmpty = true ↔ ts = [] := by
  have some (t : Token) : t.chars ≠ [] := by cases t <;> nofun
  rw [textOf, String.isEmpty_iff, ← String.toList_inj, String.toList_ofList]
  cases ts with
  | nil => simp
  | cons t ts => simp [some t]

theorem chars_subset_textOf {ts : List Token} {t : Token} (member : t ∈ ts) :
    t.chars ⊆ (textOf ts).toList := by
  intro c inside
  rw [textOf, String.toList_ofList]
  exact List.mem_flatMap.mpr ⟨t, member, inside⟩

theorem noMark_of_textOf {ts : List Token} (noMark : '?' ∉ (textOf ts).toList) :
    .char '?' ∉ ts :=
  fun member => noMark (chars_subset_textOf member (List.mem_singleton_self _))

theorem isQuiet_of_name {name : List Char} (letters : ∀ c ∈ name, isNameLetter c = true)
    {t : Token} (inside : t.chars ⊆ name) : IsQuiet t := by
  cases t with
  | escape c => cases letters '\\' (inside (by simp [Token.chars]))
  | char c =>
    have member : (Token.char c).isChar isNameLetter = true :=
      letters c (inside (List.mem_singleton_self c))
    exact isQuiet_of_isChar rfl rfl rfl member

def Fails (x : TokenScan α) : Prop := ∀ s a rest, x.outcome s ≠ .ok (a, rest)

theorem fails_stop (reason : Reason) (back : Nat) : Fails (stop reason back : TokenScan α) :=
  fun _ _ _ => nofun

theorem Fails.of_first {x : TokenScan α} (fails : Fails x) (f : α → TokenScan β) :
    Fails (x >>= f) := by
  intro s b rest done
  rw [Scan.outcome_bind] at done
  split at done
  · cases done
  next a middle answered => exact fails s a middle answered

variable {α β γ : Type} {c : Cursor}

namespace Follows

theorem of_fails {x : TokenScan α} {y : TokenScan β} {post : α → β → Cursor → Prop}
    (fails : Fails x) : Follows c x y post :=
  fun a rest done => absurd done (fails c.ahead a rest)

theorem of_stop_bind {y : TokenScan β} {post : γ → β → Cursor → Prop} (reason : Reason) (back : Nat)
    (f : α → TokenScan γ) : Follows c (stop reason back >>= f) y post :=
  of_fails ((fails_stop reason back).of_first f)

def SameQuietly (c : Cursor) (a b : α) (d : Cursor) : Prop := a = b ∧ c.Passes IsQuiet d

theorem sameQuietly (c : Cursor) (a : α) : SameQuietly c a a c := ⟨rfl, .refl _ c⟩

theorem hexEscape (ch : Char) (n : Nat) :
    Follows c (hexEscape ch n) (hexEscape ch n) (SameQuietly c) := by
  refine (takeUpTo (by decide) (by decide) n).bind ?_
  rintro digits _ d - ⟨rfl, passes⟩
  dsimp only
  split
  · exact of_stop _ _
  split
  · exact of_pure ⟨rfl, passes.mono fun _ => isQuiet_of_isChar rfl rfl rfl⟩
  · exact of_stop _ _

/-- A text that holds no site is the same for both. Its symbols are taken, and the terminator. -/
def SameText (c : Cursor) (terminator : Char) (a b : String) (d : Cursor) : Prop :=
  ('?' ∉ a.toList → b = a) ∧ c.Passes (fun t => t = .char terminator ∨ t.chars ⊆ a.toList) d ∧
    d.before.head? = some (.char terminator)

theorem textUntil {terminator : Char} (what : String) (angle : terminator ≠ '<')
    (letter : terminator ≠ 'P') (plain : c.isSite = false) :
    Follows c (textUntil terminator what) (textUntil terminator what) (SameText c terminator) := by
  have other (ch : Char) (apart : terminator ≠ ch) :
      (Token.char ch != .char terminator) = true := by
    simp [Ne.symm apart]
  refine (takeWhile (other '<' angle) (other 'P' letter) plain).bind ?_
  rintro a b d - ⟨sublist, kept, symbols, ended, plain⟩
  refine (Follows.terminator ended plain).bind ?_
  rintro _ _ e - (⟨rfl, rfl⟩ | ⟨rfl, rfl, closing, last⟩)
  · dsimp only
    split
    · exact of_stop _ _
    · exact of_stop _ _
  dsimp only
  split
  · exact of_stop _ _
  next some =>
    have some' : (textOf b).isEmpty ≠ true := by
      rw [textOf_isEmpty] at some
      rw [ne_eq, textOf_isEmpty]
      rintro rfl
      exact some (List.sublist_nil.mp sublist)
    rw [if_neg some']
    refine of_pure ⟨fun noMark => ?_, ?_, last⟩
    · rw [kept (noMark_of_textOf noMark)]
    · exact (symbols.mono fun t member => .inr (chars_subset_textOf member)).trans
        (closing.mono fun t => .inl)

theorem namedEscape [Host] : Follows c namedEscape namedEscape (SameQuietly c) := by
  refine (skip fun _ => by decide).bind ?_
  rintro _ _ d - (⟨rfl, rfl, brace, behind⟩ | ⟨rfl, rfl, rfl, -⟩)
  · have plain : d.isSite = false := by
      rw [behind]
      exact Cursor.isSite_past (by decide) _ _
    have opened : c.Passes IsQuiet d := by
      rw [behind]
      exact .past (by simp [IsQuiet, isParenthesisToken]) brace
    refine (textUntil _ (by decide) (by decide) plain).bind ?_
    rintro name name' e - ⟨kept, taken, -⟩
    split
    next ch known =>
      have letters := List.all_eq_true.mp (Host.spelled known)
      have noMark : '?' ∉ name.toList := fun mark => Bool.false_ne_true (letters '?' mark)
      rw [kept noMark, known]
      refine of_pure ⟨rfl, opened.trans (taken.mono ?_)⟩
      rintro t (rfl | inside)
      · simp [IsQuiet, isParenthesisToken]
      · exact isQuiet_of_name letters inside
    · exact of_stop _ _
  · exact of_stop _ _

theorem codeEscape [Host] {ch : Char} {scan : TokenScan Nat} (some : codeEscape? ch = some scan) :
    Follows c scan scan (SameQuietly c) := by
  unfold codeEscape? at some
  split at some
  · cases some
    exact hexEscape ch 2
  split at some
  · cases some
    exact hexEscape ch 4
  split at some
  · cases some
    exact hexEscape ch 8
  split at some
  · cases some
    exact namedEscape
  · cases some

theorem plainEscape (ch : Char) :
    Follows c (plainEscape ch) (plainEscape ch) (SameQuietly c) := by
  unfold Pattern.plainEscape
  split
  · exact of_stop _ _
  · exact of_pure (sameQuietly c _)

theorem octalValue (digits : List Char) :
    Follows c (octalValue digits) (octalValue digits) fun a b d => a = b ∧ d = c := by
  unfold Pattern.octalValue
  dsimp only
  split
  · exact of_pure ⟨rfl, rfl⟩
  · exact of_stop _ _

theorem octalDigits (n : Nat) :
    Follows c (Scan.takeUpTo n (Token.isChar isOctal)) (Scan.takeUpTo n (Token.isChar isOctal))
      (SameQuietly c) :=
  (takeUpTo (by decide) (by decide) n).mono fun _ _ _ _ ⟨same, passes⟩ =>
    ⟨same, passes.mono fun _ => isQuiet_of_isChar rfl rfl rfl⟩

theorem setEscape [Host] (ch : Char) :
    Follows c (setEscape ch) (setEscape ch) (SameQuietly c) := by
  unfold Pattern.setEscape
  split
  · exact of_pure (sameQuietly c _)
  · exact of_pure (sameQuietly c _)
  next scan some _ _ =>
    refine (codeEscape some).bind ?_
    rintro n _ d - ⟨rfl, passes⟩
    exact of_pure ⟨rfl, passes⟩
  · split
    · refine (octalDigits 2).bind ?_
      rintro more _ d - ⟨rfl, passes⟩
      refine (octalValue _).bind ?_
      rintro n _ _ - ⟨rfl, rfl⟩
      exact of_pure ⟨rfl, passes⟩
    · refine (plainEscape ch).bind ?_
      rintro n _ d - ⟨rfl, passes⟩
      exact of_pure ⟨rfl, passes⟩

theorem setItem [Host] (t : Token) : Follows c (setItem t) (setItem t) (SameQuietly c) := by
  cases t with
  | char ch => exact of_pure (sameQuietly c _)
  | escape ch => exact setEscape ch

/-- What a step in a set makes of the members so far. The members are the same if `exact`. -/
def SetStepped (exact : Prop) (c : Cursor) (seen : List Item) (t : Token) :
    List Item ⊕ List Item → List Item ⊕ List Item → Cursor → Prop
  | .inl items, .inl items', d => (exact → items = items') ∧ items ≠ [] ∧ items' ≠ [] ∧
    (seen ≠ [] → t ≠ .char ']') ∧ c.Passes (· ≠ .char ']') d
  | .inr items, .inr items', d => (exact → items = items') ∧ d.before.head? = some (.char ']')
  | _, _, _ => False

theorem setStep [Host] {exact : Prop} (opening opening' : Nat) {seen seen' : List Item} {t : Token}
    (last : c.before.head? = some t) (same : exact → seen = seen')
    (empty : t = .char ']' → seen.isEmpty = seen'.isEmpty) :
    Follows c (setStep opening seen t) (setStep opening' seen' t) (SetStepped exact c seen t) := by
  have noBracket (u : Token) (quiet : IsQuiet u) : u ≠ .char ']' := quiet.1
  have closes : (t == .char ']' && !seen.isEmpty) = (t == .char ']' && !seen'.isEmpty) := by
    by_cases closing : t = .char ']'
    · rw [empty closing]
    · rw [beq_eq_false_iff_ne.mpr closing, Bool.false_and, Bool.false_and]
  unfold Pattern.setStep
  rw [← closes]
  split
  next closing =>
    simp only [Bool.and_eq_true, beq_iff_eq] at closing
    exact of_pure ⟨fun exactly => by rw [same exactly], by rw [last, closing.1]⟩
  next going =>
    have member : seen ≠ [] → t ≠ .char ']' := by
      rintro some rfl
      exact going (by simpa using some)
    refine (setItem t).bind ?_
    rintro low _ d - ⟨rfl, digits⟩
    have passes : c.Passes (· ≠ .char ']') d := digits.mono noBracket
    refine (skip fun _ => by decide).bind ?_
    rintro _ _ e - (⟨rfl, rfl, dash, behind⟩ | ⟨rfl, rfl, rfl, -⟩)
    · have passes : c.Passes (· ≠ .char ']') e := by
        rw [behind]
        exact passes.trans (.past (by decide) dash)
      have plain : e.isSite = false := by
        rw [behind]
        exact Cursor.isSite_past (by decide) _ _
      refine (next plain).bind ?_
      rintro _ _ f - (⟨rfl, rfl, -⟩ | ⟨u, rfl, rfl, ahead, behind⟩)
      · exact of_stopAt _ _
      by_cases bracket : u = .char ']'
      · subst bracket
        refine of_pure ⟨fun exactly => by rw [same exactly], ?_⟩
        rw [behind]
        rfl
      have passes : c.Passes (· ≠ .char ']') f := by
        rw [behind]
        exact passes.trans (.past bracket ahead)
      split
      next none => cases none
      next closing => exact absurd (Option.some.inj closing) bracket
      next same' =>
        cases same'
        refine (setItem u).bind ?_
        rintro high _ g - ⟨rfl, digits⟩
        have passes := passes.trans (digits.mono noBracket)
        split
        · split
          · exact of_pure ⟨fun exactly => by rw [same exactly], List.cons_ne_nil _ _,
              List.cons_ne_nil _ _, member, passes⟩
          · exact of_stop _ _
        · exact of_stop _ _
    · exact of_pure ⟨fun exactly => by rw [same exactly], List.cons_ne_nil _ _,
        List.cons_ne_nil _ _, member, passes⟩

/-- A set read by both: negated in both or in none, with the same members if `exact`. -/
def SameSet (exact : Prop) (x y : Bool × List Item) (d : Cursor) : Prop :=
  x.1 = y.1 ∧ (exact → x.2 = y.2) ∧ d.before.head? = some (.char ']')

def SetKept (exact : Prop) (seen seen' : List Item) (d : Cursor) : Prop :=
  (exact → seen = seen') ∧ seen.isEmpty = seen'.isEmpty ∧
    ∃ members, d.IsInSet members ∧ (seen = [] → members = [])

def SetEnded (exact : Prop) (items items' : List Item) (d : Cursor) : Prop :=
  (exact → items = items') ∧ d.before.head? = some (.char ']')

theorem SetStepped.kept {exact : Prop} {d e : Cursor} {t : Token} {rest : List Token}
    {seen : List Item} {r r' : List Item ⊕ List Item}
    (inside : ∃ members, d.IsInSet members ∧ (seen = [] → members = []))
    (stepped : SetStepped exact (d.past t rest) seen t r r' e) :
    Stepped (SetKept exact) (SetEnded exact) r r' e := by
  rcases r with items | items <;> rcases r' with items' | items'
  · obtain ⟨same, some, some', member, taken, others, -, before⟩ := stepped
    obtain ⟨members, ⟨outside, caret, since, negation, unclosed⟩, first⟩ := inside
    refine ⟨same, ?_, members ++ t :: taken, ⟨outside, caret, ?_, negation, ?_⟩,
      fun empty => absurd empty some⟩
    · rw [List.isEmpty_eq_false_iff.mpr some, List.isEmpty_eq_false_iff.mpr some']
    · simp [before, since]
    · intro closed
      cases members with
      | nil => exact others _ closed rfl
      | cons u later =>
        have nonempty : seen ≠ [] := fun empty => List.cons_ne_nil _ _ (first empty)
        rcases List.mem_append.mp closed with old | new
        · exact unclosed old
        rcases List.mem_cons.mp new with last | taken
        · exact member nonempty last.symm
        · exact others _ taken rfl
  · exact stepped.elim
  · exact stepped.elim
  · exact stepped

theorem setBody [Host] {exact : Prop} (opening opening' : Nat)
    (bracket : c.before.head? = some (.char '['))
    (lookalike : ∀ d : Cursor, d.whole = c.whole → d.IsLookalike → ¬exact) :
    Follows c (setBody opening) (setBody opening') (SameSet exact) := by
  have body (d : Cursor) (same : d.whole = c.whole) (start : d.IsInSet []) :
      Follows d
        (Scan.loop (Pattern.setStep opening) (fun _ => stopAt .unterminatedSet opening) [])
        (Scan.loop (Pattern.setStep opening') (fun _ => stopAt .unterminatedSet opening') [])
        (SetEnded exact) := by
    refine loop (SetKept exact) ?_ ?_ ?_ ⟨fun _ => rfl, rfl, [], start, fun _ => rfl⟩
    · intro seen seen' e _ _ _
      exact of_stopAt _ _
    · rintro seen seen' e t rest - ⟨same, empty, inside⟩ - -
      exact (setStep opening opening' rfl same fun _ => empty).mono
        fun _ _ _ _ stepped => stepped.kept inside
    · rintro seen seen' e rest whole ⟨-, -, inside⟩ - site
      have inexact : ¬exact := by
        obtain ⟨members, inSet, -⟩ := inside
        exact lookalike e (whole.trans same) ⟨site, .inr ⟨members, inSet⟩⟩
      refine ⟨.one 80 :: seen', fun s => ?_, ?_⟩
      · rfl
      · refine (setStep opening opening' rfl (fun exactly => absurd exactly inexact) ?_).mono
          fun _ _ _ _ stepped => stepped.kept inside
        rintro ⟨⟩
  obtain ⟨outside, before⟩ : ∃ outside, c.before = .char '[' :: outside := by
    cases before : c.before with
    | nil => simp [before] at bracket
    | cons t outside => exact ⟨outside, by simpa [before] using bracket⟩
  refine (skip fun _ => by decide).bind ?_
  rintro _ _ d whole (⟨rfl, rfl, -, behind⟩ | ⟨rfl, rfl, rfl, -⟩)
  · have start : d.IsInSet [] := by
      refine ⟨outside.reverse, [.char '^'], ?_, .inr rfl, List.not_mem_nil⟩
      rw [behind]
      simp [before]
    refine (body d whole start).bind ?_
    rintro items items' e - ⟨same, last⟩
    exact of_pure ⟨rfl, same, last⟩
  · have start : d.IsInSet [] := by
      refine ⟨outside.reverse, [], ?_, .inl rfl, List.not_mem_nil⟩
      simp [before]
    refine (body d rfl start).bind ?_
    rintro items items' e - ⟨same, last⟩
    exact of_pure ⟨rfl, same, last⟩

end Follows

end BuildLog.Pattern
