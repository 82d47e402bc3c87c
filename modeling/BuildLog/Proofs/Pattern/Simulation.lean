import BuildLog.Pattern.Reader
import BuildLog.Proofs.Pattern.Expansion
import BuildLog.Proofs.Scan

/-! Two scans side by side, one of the symbols of a pattern, the other of the same symbols with a
`P` before each name in the second spelling. Where the first one ends with an answer, so does the
second, at the same place of the pattern. -/
namespace BuildLog.Pattern

namespace Cursor

/-- What the second scan has before it. -/
def symbols (c : Cursor) : List Token := expanded c.before c.ahead

def past (c : Cursor) (t : Token) (rest : List Token) : Cursor := ⟨t :: c.before, rest⟩

@[simp] theorem past_before (c : Cursor) (t : Token) (rest : List Token) :
    (c.past t rest).before = t :: c.before := rfl

@[simp] theorem past_ahead (c : Cursor) (t : Token) (rest : List Token) :
    (c.past t rest).ahead = rest := rfl

def Passes (p : Token → Prop) (c d : Cursor) : Prop :=
  ∃ taken, (∀ t ∈ taken, p t) ∧ c.ahead = taken ++ d.ahead ∧ d.before = taken.reverse ++ c.before

theorem Passes.refl (p : Token → Prop) (c : Cursor) : c.Passes p c :=
  ⟨[], nofun, rfl, rfl⟩

theorem Passes.mono {p q : Token → Prop} {c d : Cursor} (weaker : ∀ t, p t → q t)
    (passes : c.Passes p d) : c.Passes q d := by
  obtain ⟨taken, members, ahead, before⟩ := passes
  exact ⟨taken, fun t member => weaker t (members t member), ahead, before⟩

theorem Passes.trans {p : Token → Prop} {c d e : Cursor} (first : c.Passes p d)
    (second : d.Passes p e) : c.Passes p e := by
  obtain ⟨taken, members, ahead, before⟩ := first
  obtain ⟨taken', members', ahead', before'⟩ := second
  refine ⟨taken ++ taken', fun t member => ?_, ?_, ?_⟩
  · exact (List.mem_append.mp member).elim (members t) (members' t)
  · rw [ahead, ahead', List.append_assoc]
  · rw [before', before, List.reverse_append, List.append_assoc]

theorem Passes.past {p : Token → Prop} {c : Cursor} {t : Token} {rest : List Token} (member : p t)
    (ahead : c.ahead = t :: rest) : c.Passes p (c.past t rest) :=
  ⟨[t], by simpa using member, ahead, rfl⟩

theorem Passes.whole {p : Token → Prop} {c d : Cursor} (passes : c.Passes p d) :
    d.whole = c.whole := by
  obtain ⟨taken, -, ahead, before⟩ := passes
  simp [Cursor.whole, ahead, before]

end Cursor

variable {α β γ δ : Type}

/-- If the first scan ends with an answer, so does the second, and they end at the same place with
answers that are related. -/
def Follows (c : Cursor) (x : TokenScan α) (y : TokenScan β) (post : α → β → Cursor → Prop) :
    Prop :=
  ∀ a rest, x.outcome c.ahead = .ok (a, rest) →
    ∃ b d, d.ahead = rest ∧ d.whole = c.whole ∧ y.outcome c.symbols = .ok (b, d.symbols) ∧
      post a b d

namespace Follows

variable {c : Cursor} {x : TokenScan α} {y : TokenScan β} {post : α → β → Cursor → Prop}

theorem of_pure {a : α} {b : β} (holds : post a b c) :
    Follows c (pure a : TokenScan α) (pure b : TokenScan β) post := by
  rintro _ _ ⟨⟩
  exact ⟨b, c, rfl, rfl, rfl, holds⟩

theorem bind {f : α → TokenScan γ} {g : β → TokenScan δ} {last : γ → δ → Cursor → Prop}
    (first : Follows c x y post)
    (later : ∀ a b d, d.whole = c.whole → post a b d → Follows d (f a) (g b) last) :
    Follows c (x >>= f) (y >>= g) last := by
  intro r rest done
  rw [Scan.outcome_bind] at done
  split at done
  · cases done
  next a middle answered =>
    obtain ⟨b, d, rfl, whole, same, holds⟩ := first a middle answered
    obtain ⟨s, e, ended, whole', same', holds'⟩ := later a b d whole holds r rest done
    refine ⟨s, e, ended, whole'.trans whole, ?_, holds'⟩
    rw [Scan.outcome_bind, same]
    exact same'

theorem mono {weaker : α → β → Cursor → Prop} (first : Follows c x y post)
    (weakened : ∀ a b d, d.whole = c.whole → post a b d → weaker a b d) :
    Follows c x y weaker := by
  intro a rest done
  obtain ⟨b, d, ended, whole, same, holds⟩ := first a rest done
  exact ⟨b, d, ended, whole, same, weakened a b d whole holds⟩

theorem of_pure_bind {a : α} {b : β} {f : α → TokenScan γ} {g : β → TokenScan δ}
    {last : γ → δ → Cursor → Prop} (later : Follows c (f a) (g b) last) :
    Follows c ((pure a : TokenScan α) >>= f) ((pure b : TokenScan β) >>= g) last := by
  have first : Follows c (pure a : TokenScan α) (pure b : TokenScan β)
      fun x y d => x = a ∧ y = b ∧ d = c :=
    of_pure ⟨rfl, rfl, rfl⟩
  refine first.bind ?_
  rintro _ _ _ - ⟨rfl, rfl, rfl⟩
  exact later

theorem ite {p : Prop} [Decidable p] {x' : TokenScan α} {y' : TokenScan β}
    (yes : p → Follows c x y post) (no : ¬p → Follows c x' y' post) :
    Follows c (if p then x else x') (if p then y else y') post := by
  split
  next holds => exact yes holds
  next fails => exact no fails

theorem of_error {e : Stop} (failed : x.outcome c.ahead = .error e) : Follows c x y post := by
  intro a rest done
  rw [failed] at done
  cases done

theorem of_stop (reason : Reason) (back : Nat) : Follows c (stop reason back) y post :=
  of_error rfl

theorem of_stopAt (reason : Reason) (remaining : Nat) :
    Follows c (stopAt reason remaining) y post :=
  of_error rfl

theorem of_stopWith (e : Error) : Follows c (stopWith e) y post := of_error rfl

theorem of_stopBefore (reason : Reason) (t : Token) : Follows c (stopBefore reason t) y post :=
  of_error rfl

theorem rest : Follows c Scan.rest Scan.rest
    fun a b d => d = c ∧ a = c.ahead ∧ b = c.symbols := by
  rintro _ _ ⟨⟩
  exact ⟨_, c, rfl, rfl, rfl, rfl, rfl, rfl⟩

end Follows

namespace Cursor

theorem symbols_nil {c : Cursor} (ended : c.ahead = []) : c.symbols = [] := by
  rw [symbols, ended, expanded]

theorem symbols_cons {c : Cursor} (plain : c.isSite = false) {t : Token} {rest : List Token}
    (next : c.ahead = t :: rest) : c.symbols = t :: (c.past t rest).symbols := by
  rcases c with ⟨before, ahead⟩
  cases next
  exact expanded_cons plain

theorem symbols_site {c : Cursor} (site : c.isSite = true) {t : Token} {rest : List Token}
    (next : c.ahead = t :: rest) : c.symbols = .char 'P' :: t :: (c.past t rest).symbols := by
  rcases c with ⟨before, ahead⟩
  cases next
  exact expanded_site site

theorem past_whole {c : Cursor} {t : Token} {rest : List Token} (next : c.ahead = t :: rest) :
    (c.past t rest).whole = c.whole := by
  simp [whole, past, next]

theorem ahead_of_isSite {c : Cursor} (site : c.isSite = true) :
    ∃ rest, c.ahead = .char '<' :: rest := by
  obtain ⟨t, older, n, rest, -, -, rfl⟩ := exists_of_isSite site
  exact ⟨_, rfl⟩

theorem not_isSite_of_ahead {c : Cursor} {t : Token} {rest : List Token}
    (ahead : c.ahead = t :: rest) (other : t ≠ .char '<') : c.isSite = false := by
  rcases c with ⟨before, _⟩
  cases ahead
  exact isSite_other other before rest

/-- A site has a question mark in front of it. -/
theorem isSite_past {t : Token} (other : t ≠ .char '?') (c : Cursor) (rest : List Token) :
    (c.past t rest).isSite = false := by
  refine Bool.eq_false_iff.mpr fun site => ?_
  obtain ⟨_, _, _, _, -, -, same⟩ := exists_of_isSite site
  simp only [past, Cursor.mk.injEq, List.cons.injEq] at same
  exact other same.1.1

/-- A symbol that is neither the angle nor the letter stands before both scans or before none. -/
theorem head_symbols {c : Cursor} {t : Token} (angle : t ≠ .char '<') (letter : t ≠ .char 'P') :
    c.symbols.head? = some t ↔ c.ahead.head? = some t := by
  cases ahead : c.ahead with
  | nil => rw [symbols_nil ahead]
  | cons u rest =>
    cases site : c.isSite with
    | false => rw [symbols_cons site ahead, List.head?_cons, List.head?_cons]
    | true =>
      obtain ⟨_, same⟩ := ahead_of_isSite site
      rw [ahead] at same
      cases same
      rw [symbols_site site ahead]
      simp [angle.symm, letter.symm]

/-- The symbols of a run without an angle are kept. -/
theorem symbols_append {run rest : List Token} {c : Cursor} (ahead : c.ahead = run ++ rest)
    (noAngle : .char '<' ∉ run) :
    c.symbols = run ++ Cursor.symbols ⟨run.reverse ++ c.before, rest⟩ := by
  induction run generalizing c with
  | nil =>
    rcases c with ⟨before, ahead⟩
    cases ahead
    rfl
  | cons t run ih =>
    obtain ⟨first, later⟩ := not_or.mp (mt List.mem_cons.mpr noAngle)
    have next : c.ahead = t :: (run ++ rest) := ahead
    have kept := ih (c := c.past t (run ++ rest)) rfl later
    rw [symbols_cons (not_isSite_of_ahead next (Ne.symm first)) next, kept]
    simp [past]

end Cursor

namespace Follows

variable {c : Cursor}

theorem skip_outcome (t u : Token) (s : List Token) :
    Scan.outcome (ε := Stop) (Scan.skip? u) (t :: s) =
      .ok (if t = u then (true, s) else (false, t :: s)) := by
  simp only [Scan.outcome, Scan.skip?, beq_iff_eq]
  split <;> rfl

theorem skip {u : Token} (apart : c.isSite = true → u ≠ .char '<' ∧ u ≠ .char 'P') :
    Follows c (Scan.skip? u) (Scan.skip? u) fun a b d =>
      (a = true ∧ b = true ∧ c.ahead = u :: d.ahead ∧ d = c.past u d.ahead) ∨
      (a = false ∧ b = false ∧ d = c ∧ c.ahead.head? ≠ some u) := by
  intro a rest done
  cases ahead : c.ahead with
  | nil =>
    rw [ahead] at done
    cases done
    refine ⟨false, c, ahead, rfl, ?_, .inr ⟨rfl, rfl, rfl, by simp⟩⟩
    rw [Cursor.symbols_nil ahead]
    rfl
  | cons t later =>
    rw [ahead, skip_outcome] at done
    cases site : c.isSite with
    | false =>
      rw [Cursor.symbols_cons site ahead, skip_outcome]
      split at done
      next same =>
        subst same
        cases done
        refine ⟨true, c.past t _, rfl, Cursor.past_whole ahead, ?_, .inl ⟨rfl, rfl, rfl, rfl⟩⟩
        rw [if_pos rfl]
      next other =>
        cases done
        refine ⟨false, c, ahead, rfl, ?_, .inr ⟨rfl, rfl, rfl, by simpa using other⟩⟩
        rw [if_neg other, Cursor.symbols_cons site ahead]
    | true =>
      obtain ⟨notAngle, notLetter⟩ := apart site
      obtain ⟨_, angle⟩ := Cursor.ahead_of_isSite site
      rw [ahead] at angle
      cases angle
      rw [if_neg (Ne.symm notAngle)] at done
      cases done
      refine ⟨false, c, ahead, rfl, ?_, .inr ⟨rfl, rfl, rfl, by simpa using Ne.symm notAngle⟩⟩
      rw [Cursor.symbols_site site ahead, skip_outcome, if_neg (Ne.symm notLetter)]

theorem next (plain : c.isSite = false) :
    Follows c Scan.next? Scan.next? fun a b d =>
      (a = none ∧ b = none ∧ d = c ∧ c.ahead = []) ∨
      ∃ t, a = some t ∧ b = some t ∧ c.ahead = t :: d.ahead ∧ d = c.past t d.ahead := by
  intro a rest done
  cases ahead : c.ahead with
  | nil =>
    rw [ahead] at done
    cases done
    refine ⟨none, c, ahead, rfl, ?_, .inl ⟨rfl, rfl, rfl, rfl⟩⟩
    rw [Cursor.symbols_nil ahead]
    rfl
  | cons t later =>
    rw [ahead] at done
    cases done
    refine ⟨some t, c.past t later, rfl, Cursor.past_whole ahead, ?_,
      .inr ⟨t, rfl, rfl, rfl, rfl⟩⟩
    rw [Cursor.symbols_cons plain ahead]
    rfl

theorem takeUpTo_symbols {p : Token → Bool} (angle : p (.char '<') = false)
    (letter : p (.char 'P') = false) (n : Nat) (c : Cursor) :
    (c.symbols.take n).takeWhile p = (c.ahead.take n).takeWhile p := by
  induction n generalizing c with
  | zero => rfl
  | succ n ih =>
    cases ahead : c.ahead with
    | nil => rw [Cursor.symbols_nil ahead]
    | cons t later =>
      cases site : c.isSite with
      | false =>
        rw [Cursor.symbols_cons site ahead, List.take_succ_cons, List.take_succ_cons,
          List.takeWhile_cons, List.takeWhile_cons, ih, Cursor.past_ahead]
      | true =>
        obtain ⟨_, same⟩ := Cursor.ahead_of_isSite site
        rw [ahead] at same
        cases same
        rw [Cursor.symbols_site site ahead]
        simp [angle, letter]

/-- A run of symbols of a kind that the letter and the angle are not of. -/
theorem takeUpTo {p : Token → Bool} (angle : p (.char '<') = false)
    (letter : p (.char 'P') = false) (n : Nat) :
    Follows c (Scan.takeUpTo n p) (Scan.takeUpTo n p) fun a b d =>
      a = b ∧ c.Passes (fun t => p t = true) d := by
  rintro _ _ ⟨⟩
  let run := (c.ahead.take n).takeWhile p
  obtain ⟨rest, ahead⟩ : run <+: c.ahead :=
    (List.takeWhile_prefix p).trans (List.take_prefix n _)
  have ended : c.ahead.drop run.length = rest := by rw [← ahead, List.drop_left]
  have members : ∀ t ∈ run, p t = true := List.all_eq_true.mp (List.all_takeWhile)
  have noAngle : .char '<' ∉ run := by
    intro member
    simpa [angle] using members _ member
  have passes : c.Passes (fun t => p t = true) ⟨run.reverse ++ c.before, rest⟩ :=
    ⟨run, members, ahead.symm, rfl⟩
  have same : (c.symbols.take n).takeWhile p = run := takeUpTo_symbols angle letter n c
  refine ⟨run, _, ended.symm, passes.whole, ?_, rfl, passes⟩
  change Except.ok ((c.symbols.take n).takeWhile p,
    c.symbols.drop ((c.symbols.take n).takeWhile p).length) = _
  rw [same, Cursor.symbols_append ahead.symm noAngle, List.drop_left]

/-- The second run may have letters that the first one lacks, but only behind a question mark. -/
theorem takeWhile_symbols {p : Token → Bool} (angle : p (.char '<') = true)
    (letter : p (.char 'P') = true) (ahead : List Token) : ∀ c : Cursor, c.ahead = ahead →
    ∃ d : Cursor, d.ahead = c.ahead.dropWhile p ∧ d.whole = c.whole ∧
      c.symbols.dropWhile p = d.symbols ∧ c.Passes (· ∈ c.ahead.takeWhile p) d ∧
      (c.ahead.takeWhile p).Sublist (c.symbols.takeWhile p) ∧
      (c.isSite = false → .char '?' ∉ c.ahead.takeWhile p →
        c.symbols.takeWhile p = c.ahead.takeWhile p) := by
  induction ahead with
  | nil =>
    intro c ahead
    exact ⟨c, by simp [ahead], rfl, by simp [Cursor.symbols_nil ahead], .refl _ c,
      by simp [ahead], fun _ _ => by simp [ahead, Cursor.symbols_nil ahead]⟩
  | cons t later ih =>
    intro c ahead
    cases member : p t with
    | false =>
      have other : t ≠ .char '<' := by
        rintro rfl
        rw [angle] at member
        cases member
      have plain := Cursor.not_isSite_of_ahead ahead other
      have symbols := Cursor.symbols_cons plain ahead
      refine ⟨c, ?_, rfl, ?_, .refl _ c, ?_, fun _ _ => ?_⟩
      · simp [ahead, member]
      · simp [symbols, member]
      · simp [ahead, member]
      · simp [ahead, symbols, member]
    | true =>
      obtain ⟨d, ended, whole, same, passes, sublist, kept⟩ := ih (c.past t later) rfl
      have whole := whole.trans (Cursor.past_whole ahead)
      have passes : c.Passes (· ∈ c.ahead.takeWhile p) d := by
        rw [ahead, List.takeWhile_cons_of_pos member]
        exact (Cursor.Passes.past (by simp) ahead).trans
          (passes.mono fun u inside => List.mem_cons_of_mem t inside)
      cases site : c.isSite with
      | false =>
        have symbols := Cursor.symbols_cons site ahead
        refine ⟨d, ?_, whole, ?_, passes, ?_, fun _ noMark => ?_⟩
        · simpa [ahead, member] using ended
        · simpa [symbols, member] using same
        · simpa [ahead, symbols, member] using sublist
        · rw [ahead, List.takeWhile_cons_of_pos member] at noMark ⊢
          obtain ⟨first, rest⟩ := not_or.mp (mt List.mem_cons.mpr noMark)
          have apart := Cursor.isSite_past (Ne.symm first) c later
          rw [symbols, List.takeWhile_cons_of_pos member, kept apart rest, Cursor.past_ahead]
      | true =>
        have symbols := Cursor.symbols_site site ahead
        refine ⟨d, ?_, whole, ?_, passes, ?_, nofun⟩
        · simpa [ahead, member] using ended
        · simpa [symbols, member, letter] using same
        · rw [ahead, symbols, List.takeWhile_cons_of_pos member, List.takeWhile_cons_of_pos letter,
            List.takeWhile_cons_of_pos member]
          exact (sublist.cons_cons t).cons _

/-- A run of symbols of a kind that the letter and the angle are of. -/
theorem takeWhile {p : Token → Bool} (angle : p (.char '<') = true)
    (letter : p (.char 'P') = true) (plain : c.isSite = false) :
    Follows c (Scan.takeWhile p) (Scan.takeWhile p) fun a b d =>
      a.Sublist b ∧ (.char '?' ∉ a → b = a) ∧ c.Passes (· ∈ a) d ∧
        (∀ t ∈ d.ahead.head?, p t = false) ∧ d.isSite = false := by
  rintro _ _ ⟨⟩
  obtain ⟨d, ended, whole, same, passes, sublist, kept⟩ :=
    takeWhile_symbols angle letter c.ahead c rfl
  have stopped : ∀ t ∈ d.ahead.head?, p t = false := by
    intro t first
    rw [ended] at first
    have other := List.head?_dropWhile_not p c.ahead
    rw [Option.mem_def.mp first] at other
    simpa using other
  refine ⟨c.symbols.takeWhile p, d, ended, whole, ?_, sublist, kept plain, passes, stopped, ?_⟩
  · rw [← same]
    rfl
  · refine Bool.eq_false_iff.mpr fun site => ?_
    obtain ⟨rest, ahead⟩ := Cursor.ahead_of_isSite site
    have other := stopped (.char '<') (by rw [ahead]; rfl)
    rw [angle] at other
    cases other

/-- The symbol that ended a run, if there is one. -/
theorem terminator {t : Token} (ended : ∀ u ∈ c.ahead.head?, (u != t) = false)
    (plain : c.isSite = false) :
    Follows c Scan.next? Scan.next? fun a b d =>
      (a = none ∧ b = none) ∨
        (a = some t ∧ b = some t ∧ c.Passes (· = t) d ∧ d.before.head? = some t) := by
  refine (next plain).mono ?_
  rintro _ _ d - (⟨rfl, rfl, -⟩ | ⟨u, rfl, rfl, ahead, behind⟩)
  · exact .inl ⟨rfl, rfl⟩
  · obtain rfl : u = t := by simpa using ended u (by rw [ahead]; rfl)
    rw [behind]
    exact .inr ⟨rfl, rfl, .past rfl ahead, rfl⟩

/-- Both steps of a loop go on, in related states, or both end it. -/
def Stepped (invariant : α → β → Cursor → Prop) (post : γ → δ → Cursor → Prop) :
    α ⊕ γ → β ⊕ δ → Cursor → Prop
  | .inl a, .inl b, d => invariant a b d
  | .inr r, .inr s, d => post r s d
  | _, _, _ => False

section Loops

variable {step : α → Token → TokenScan (α ⊕ γ)} {atEnd : α → TokenScan γ}
  {step' : β → Token → TokenScan (β ⊕ δ)} {atEnd' : β → TokenScan δ}
  {post : γ → δ → Cursor → Prop} {a : α} {b : β}

/-- After a step in common the loops go on side by side, if they do from every later place. -/
theorem loop_cons {invariant : α → β → Cursor → Prop} {t : Token}
    (stepped : Follows c (step a t) (step' b t) (Stepped invariant post))
    (later : ∀ a b d, d.ahead.length ≤ c.ahead.length → d.whole = c.whole → invariant a b d →
      Follows d (Scan.loop step atEnd a) (Scan.loop step' atEnd' b) post)
    {r : γ} {rest : List Token}
    (done : (Scan.loop step atEnd a).outcome (t :: c.ahead) = .ok (r, rest)) :
    ∃ s d, d.ahead = rest ∧ d.whole = c.whole ∧
      (Scan.loop step' atEnd' b).outcome (t :: c.symbols) = .ok (s, d.symbols) ∧ post r s d := by
  rw [Scan.loop_outcome] at done
  split at done
  · cases done
  next r' rest' last =>
    cases done
    obtain ⟨given, d, ended, whole, same, holds⟩ := stepped _ _ last
    cases given with
    | inl _ => exact holds.elim
    | inr s =>
      refine ⟨s, d, ended, whole, ?_, holds⟩
      rw [Scan.loop_outcome, same]
  next next rest' more =>
    obtain ⟨given, d, ended, whole, same, holds⟩ := stepped _ _ more
    cases given with
    | inr _ => exact holds.elim
    | inl next' =>
      subst ended
      obtain ⟨s, e, ended, whole', same', holds'⟩ :=
        later next next' d (Scan.outcome_length more) whole holds r rest done
      refine ⟨s, e, ended, whole'.trans whole, ?_, holds'⟩
      rw [Scan.loop_cons same, same']

/-- Loops whose steps keep an invariant. At a site the second loop does one step more. -/
theorem loop (invariant : α → β → Cursor → Prop)
    (ended : ∀ a b d, d.whole = c.whole → invariant a b d → d.ahead = [] →
      Follows d (atEnd a) (atEnd' b) post)
    (stepped : ∀ a b d t rest, d.whole = c.whole → invariant a b d → d.ahead = t :: rest →
      d.isSite = false → Follows (d.past t rest) (step a t) (step' b t) (Stepped invariant post))
    (site : ∀ a b d rest, d.whole = c.whole → invariant a b d → d.ahead = .char '<' :: rest →
      d.isSite = true → ∃ b',
        (∀ s, (step' b (.char 'P')).outcome (.char '<' :: s) = .ok (.inl b', .char '<' :: s)) ∧
        Follows (d.past (.char '<') rest) (step a (.char '<')) (step' b' (.char '<'))
          (Stepped invariant post))
    (start : invariant a b c) :
    Follows c (Scan.loop step atEnd a) (Scan.loop step' atEnd' b) post := by
  suffices later : ∀ n, ∀ d : Cursor, d.ahead.length = n → d.whole = c.whole →
      ∀ a b, invariant a b d → Follows d (Scan.loop step atEnd a) (Scan.loop step' atEnd' b) post
    from later _ c rfl rfl a b start
  intro n
  induction n using Nat.strongRecOn with
  | ind n ih =>
    intro d length whole a b holds r rest done
    cases ahead : d.ahead with
    | nil =>
      rw [ahead, Scan.loop_nil, ← ahead] at done
      rw [Cursor.symbols_nil ahead, Scan.loop_nil, ← Cursor.symbols_nil ahead]
      exact ended a b d whole holds ahead r rest done
    | cons t later =>
      have behind := Cursor.past_whole ahead
      have shorter : later.length < n := by rw [← length, ahead, List.length_cons]; omega
      have follow (a : α) (b : β) (e : Cursor) (short : e.ahead.length ≤ later.length)
          (same : e.whole = (d.past t later).whole) (holds : invariant a b e) :=
        ih e.ahead.length (Nat.lt_of_le_of_lt short shorter) e rfl
          (same.trans (behind.trans whole)) a b holds
      rw [ahead] at done
      rw [← behind]
      cases angle : d.isSite with
      | false =>
        rw [Cursor.symbols_cons angle ahead]
        exact loop_cons (stepped a b d t later whole holds ahead angle) follow done
      | true =>
        obtain ⟨_, same⟩ := Cursor.ahead_of_isSite angle
        rw [ahead] at same
        cases same
        obtain ⟨b', letter, next⟩ := site a b d later whole holds ahead angle
        rw [Cursor.symbols_site angle ahead, Scan.loop_cons (letter _)]
        exact loop_cons next follow done

/-- Loops that do not come to a site. -/
theorem calmLoop {invariant : α → β → Cursor → Prop}
    (calm : ∀ a b d, invariant a b d → d.isSite = false)
    (ended : ∀ a b d, invariant a b d → Follows d (atEnd a) (atEnd' b) post)
    (stepped : ∀ a b (d : Cursor) t rest, invariant a b d →
      Follows (d.past t rest) (step a t) (step' b t) (Stepped invariant post))
    (start : invariant a b c) :
    Follows c (Scan.loop step atEnd a) (Scan.loop step' atEnd' b) post := by
  refine loop invariant (fun a b d _ holds _ => ended a b d holds)
    (fun a b d t rest _ holds _ _ => stepped a b d t rest holds) ?_ start
  intro a b d _ _ holds _ site
  rw [calm a b d holds] at site
  cases site

end Loops

end Follows

end BuildLog.Pattern
