import BuildLog.Pattern.Compile
import BuildLog.Proofs.Pattern.Groups
import BuildLog.Proofs.Run

/-! Patterns as they stand. To read named groups in a second spelling refuses no pattern that is
right without it. -/
namespace BuildLog.Pattern

variable {α β : Type} {exact : Prop} {c : Cursor} {st st' : State}

theorem State.step_letter [Host] (st : State) (s : List Token) :
    (st.step (.char 'P')).outcome s = .ok (st.pushCode 80, s) := by
  unfold State.step
  cases st.mode.verbose <;> rfl

theorem State.step_angle [Host] (st : State) (s : List Token) :
    (st.step (.char '<')).outcome s = .ok (st.pushCode 60, s) := by
  unfold State.step
  cases st.mode.verbose <;> rfl

/-- Where the symbols have come to their end, no site begins. -/
theorem Ready.of_ended (alike : st.Alike exact st') (ended : c.ahead = []) :
    Ready exact st st' c := by
  refine ⟨alike, ?_, ?_⟩
  · intro _ _ rest _ _ ahead
    rw [ended] at ahead
    cases ahead
  · intro _ _ _ _ some
    exact absurd ended some

/-- The conditions are complete for both, or a group is missing to both. -/
theorem find?_conditions {l m : List (Nat × Nat)} (same : l.map Prod.fst = m.map Prod.fst) (n : Nat)
    (complete : l.find? (fun c => n < c.1) = none) : m.find? (fun c => n < c.1) = none := by
  rw [List.find?_eq_none] at complete ⊢
  intro c member
  have first : c.1 ∈ l.map Prod.fst := same ▸ List.mem_map_of_mem member
  obtain ⟨d, member', equal⟩ := List.mem_map.mp first
  exact equal ▸ complete d member'

namespace Follows

/-- Scans that take nothing. -/
theorem of_kept {x : TokenScan α} {y : TokenScan β} {a : α} {b : β}
    {post : α → β → Cursor → Prop} (first : ∀ s, x.outcome s = .ok (a, s))
    (second : ∀ s, y.outcome s = .ok (b, s)) (holds : post a b c) : Follows c x y post := by
  intro a' rest done
  rw [first] at done
  cases done
  exact ⟨b, c, rfl, rfl, second _, holds⟩

theorem branch (alike : st.Alike exact st') :
    Follows c st.branch st'.branch fun st st' d => st.Alike exact st' ∧ d = c := by
  have kinds := alike.level.kind
  have branches := alike.level.branches
  unfold State.branch
  split
  · exact of_stopBefore _ _
  next other =>
    split
    next index b rest conditional some =>
      rw [conditional] at kinds
      rw [some] at branches
      generalize kind : st.level.kind = k at kinds
      generalize same : st.level.branches = bs at branches
      cases kinds
      cases branches
      exact (other _ _ _ kind same).elim
    · exact of_pure ⟨alike.branched, rfl⟩

/-- An escaped parenthesis stands for itself. -/
theorem escapedParenthesis [Host] (alike : st.Alike exact st') {rest : List Token} :
    Follows (c.past (.escape '(') rest) (st.escape '(') (st'.escape '(') (Ready exact) := by
  refine of_kept (Like.escape_outcome rfl st) (Like.escape_outcome rfl st')
    ⟨alike.pushCode _, ?_, ?_⟩
  · rintro _ _ _ ⟨⟩ - -
    exact ⟨rfl, _, _, rfl, rfl⟩
  · rintro _ _ ⟨⟩

/-- The line feed behind a comment, if there is one. -/
theorem dropFeed (ended : ∀ t ∈ c.ahead.head?, t = .char '\n') :
    Follows c (Scan.drop 1) (Scan.drop 1) fun _ _ d =>
      d.ahead = [] ∨ d.before.head? = some (.char '\n') := by
  rintro _ _ ⟨⟩
  cases ahead : c.ahead with
  | nil =>
    refine ⟨(), c, ahead, rfl, ?_, .inl ahead⟩
    rw [Cursor.symbols_nil ahead]
    rfl
  | cons t rest =>
    rw [ahead] at ended
    obtain rfl := ended t rfl
    have plain := Cursor.not_isSite_of_ahead ahead (by decide)
    refine ⟨(), c.past (.char '\n') rest, rfl, Cursor.past_whole ahead, ?_, .inr rfl⟩
    rw [Cursor.symbols_cons plain ahead]
    rfl

/-- A comment to the end of the line. -/
theorem lineComment (alike : st.Alike exact st') (plain : c.isSite = false) :
    Follows c
      (do
        let _ ← Scan.takeWhile fun t => t != .char '\n'
        Scan.drop 1
        return st)
      (do
        let _ ← Scan.takeWhile fun t => t != .char '\n'
        Scan.drop 1
        return st')
      (Ready exact) := by
  refine (takeWhile (by decide) (by decide) plain).bind ?_
  rintro _ _ d - ⟨-, -, -, ended, -⟩
  refine (dropFeed fun t first => by simpa using ended t first).bind ?_
  rintro _ _ e - (ahead | feed)
  · exact of_pure (Ready.of_ended alike ahead)
  · exact of_pure (Settled.ready
      ⟨alike, Cursor.isSettled_of_char feed (by decide) (by decide)⟩)

/-- A group is opened by a parenthesis alone or with a question mark. -/
theorem parenthesis [Host] (alike : st.Alike exact st') (opening opening' : Nat)
    (last : c.before.head? = some (.char '(')) :
    Follows c
      (do
        if ← Scan.skip? (.char '?') then st.extension opening
        else st.openCapture none opening)
      (do
        if ← Scan.skip? (.char '?') then st'.extension opening'
        else st'.openCapture none opening')
      (Ready exact) := by
  refine (skip fun _ => by decide).bind ?_
  rintro _ _ d - (⟨rfl, rfl, -, -⟩ | ⟨rfl, rfl, rfl, noMark⟩)
  · exact (extension alike _ _).mono fun _ _ _ _ => Settled.ready
  refine (openCapture alike none _ _).mono ?_
  rintro _ _ _ - ⟨alike, rfl⟩
  refine ⟨alike, ?_, ?_⟩
  · intro _ _ rest _ _ ahead
    rw [ahead] at noMark
    exact absurd rfl noMark
  · intro _ _ before _ _
    rw [before] at last
    cases last

/-- A group is closed. -/
theorem closing (alike : st.Alike exact st') (settled : c.IsSettled) {x y : TokenScan State} :
    Follows c
      (match st.outer with
        | [] => if st.alphabetClash then stopWith .alphabetClash >>= fun _ : Unit => x
          else stopBefore .unbalanced (.char ')') >>= fun _ : Unit => x
        | around :: outer => pure (st.close around outer))
      (match st'.outer with
        | [] => if st'.alphabetClash then stopWith .alphabetClash >>= fun _ : Unit => y
          else stopBefore .unbalanced (.char ')') >>= fun _ : Unit => y
        | around :: outer => pure (st'.close around outer))
      (Ready exact) := by
  have outer := alike.outer
  generalize st.outer = levels, st'.outer = levels' at outer
  cases outer with
  | nil =>
    dsimp only
    split
    · exact of_error rfl
    · exact of_error rfl
  | cons level rest =>
    exact of_pure (Settled.ready ⟨alike.close level rest, settled⟩)

theorem step [Host] (alike : st.Alike exact st') {t : Token} {rest : List Token}
    (ahead : c.ahead = t :: rest) (ready : c.IsReady st.level.row)
    (lookalike : ∀ d : Cursor, d.whole = c.whole → d.IsLookalike → ¬exact) :
    Follows (c.past t rest) (st.step t) (st'.step t) (Ready exact) := by
  cases t with
  | escape ch =>
    by_cases opening : ch = '('
    · subst opening
      exact escapedParenthesis alike
    · refine (escape alike ?_ ch).mono fun _ _ _ _ => Settled.ready
      rintro _ ⟨⟩
      simp [isParenthesisToken, opening]
  | char ch =>
  have settled (mark : ch ≠ '?') (opening : ch ≠ '(') : (c.past (.char ch) rest).IsSettled :=
    Cursor.isSettled_of_char rfl mark opening
  unfold State.step
  dsimp only
  rw [← alike.mode]
  refine ite (fun layout => ?_) fun _ => ?_
  · refine of_pure (Settled.ready ⟨alike, settled ?_ ?_⟩) <;>
      (rintro rfl; simp [isLayout] at layout)
  refine ite (fun comment => ?_) fun _ => ?_
  · obtain rfl : ch = '#' := beq_iff_eq.mp (Bool.and_eq_true_iff.mp comment).2
    exact lineComment alike (settled (by decide) (by decide)).not_isSite
  refine ite (fun bracket => ?_) fun _ => ?_
  · obtain rfl := beq_iff_eq.mp bracket
    refine Follows.rest.bind ?_
    rintro _ _ _ - ⟨rfl, -, -⟩
    have inside := Cursor.past_whole ahead
    refine (setBody _ _ rfl fun d whole => lookalike d (whole.trans inside)).bind ?_
    rintro ⟨negated, items⟩ ⟨_, items'⟩ d - ⟨rfl, same, last⟩
    exact of_pure (Settled.ready ⟨alike.pushClass negated same,
      Cursor.isSettled_of_char last (by decide) (by decide)⟩)
  refine ite (fun quantifier => ?_) fun noQuantifier => ?_
  · refine repeatLast alike ?_ ahead ready
    rintro rfl
    cases quantifier
  refine ite (fun dot => ?_) fun _ => ?_
  · obtain rfl := beq_iff_eq.mp dot
    exact of_pure (Settled.ready
      ⟨alike.pushClass true fun _ => rfl, settled (by decide) (by decide)⟩)
  refine ite (fun nested => ?_) fun noGroup => ?_
  · obtain rfl := beq_iff_eq.mp nested
    refine Follows.rest.bind ?_
    rintro _ _ _ - ⟨rfl, -, -⟩
    exact parenthesis alike _ _ rfl
  have other : ch ≠ '?' ∧ ch ≠ '(' := by
    constructor
    · rintro rfl
      exact noQuantifier rfl
    · rintro rfl
      exact noGroup rfl
  have settled := settled other.1 other.2
  refine ite (fun _ => closing alike settled) fun _ => ?_
  refine ite (fun bar => ?_) fun _ => ?_
  · refine (branch alike).mono ?_
    rintro _ _ _ - ⟨alike, rfl⟩
    exact Settled.ready ⟨alike, settled⟩
  refine ite (fun caret => ?_) fun _ => ?_
  · exact of_pure (Settled.ready ⟨alike.pushAnchor _, settled⟩)
  refine ite (fun dollar => ?_) fun _ => ?_
  · exact of_pure (Settled.ready ⟨alike.pushAnchor _, settled⟩)
  · exact of_pure (Settled.ready ⟨alike.pushCode _, settled⟩)

theorem finish (alike : st.Alike exact st') :
    Follows c st.finish st'.finish fun st st' _ => st.Alike exact st' := by
  have outer := alike.outer
  have clash : st'.alphabetClash = st.alphabetClash := by
    rw [State.alphabetClash, State.alphabetClash, alike.globals]
  have conditions : st.conditions.reverse.map Prod.fst = st'.conditions.reverse.map Prod.fst := by
    rw [List.map_reverse, List.map_reverse, alike.conditions]
  unfold State.finish
  rw [clash, ← alike.size]
  generalize st.outer = levels, st'.outer = levels' at outer
  cases outer with
  | cons => exact of_stopAt _ _
  | nil =>
    refine ite (fun _ => of_stopWith _) fun _ => ?_
    cases missing : st.conditions.reverse.find? fun c => st.widths.size < c.1 with
    | some missing => exact of_stopAt _ _
    | none =>
      rw [find?_conditions conditions _ missing]
      cases deferred : st.deferred with
      | some reason => exact of_error rfl
      | none =>
        rw [alike.deferred deferred]
        exact of_pure alike

theorem resume [Host] (ready : Ready exact st st' c)
    (lookalike : ∀ d : Cursor, d.whole = c.whole → d.IsLookalike → ¬exact) :
    Follows c (Pattern.resume st) (Pattern.resume st') fun st st' _ => st.Alike exact st' := by
  refine loop (Ready exact) ?_ ?_ ?_ ready
  · rintro st st' d - ⟨alike, -⟩ -
    exact finish alike
  · rintro st st' d t rest whole ⟨alike, ready⟩ ahead -
    refine (step alike ahead ready fun e same => lookalike e (same.trans whole)).bind ?_
    intro st st' e _ ready
    exact of_pure ready
  · rintro st st' d rest whole ⟨alike, ready⟩ ahead site
    obtain ⟨t, older, n, behind, opening, -, rfl⟩ := Cursor.exists_of_isSite site
    obtain ⟨rfl, p, r, row, loose⟩ := ready.asked t older rfl opening (List.cons_ne_nil _ _)
    have inexact : ¬exact := lookalike _ whole ⟨site, .inl rfl⟩
    refine ⟨st'.pushCode 80, fun s => ?_, ?_⟩
    · rw [Scan.outcome_bind, State.step_letter]
      rfl
    · have next : Follows
          (Cursor.past ⟨.char '?' :: .escape '(' :: older, .char '<' :: .char n :: behind⟩
            (.char '<') rest)
          (st.step (.char '<')) ((st'.pushCode 80).step (.char '<')) (Ready exact) :=
        of_kept (State.step_angle st) (State.step_angle _)
          (Settled.ready ⟨alike.pushBetween inexact row loose 60 80,
            Cursor.isSettled_of_char rfl (by decide) (by decide)⟩)
      exact next.bind fun st st' e _ ready => of_pure ready

end Follows

/-- A pattern that is right as it stands is right with the letters, too. Its groups have the same
numbers and names, and if nothing in it only looks like a named group, its tree is the same. -/
theorem read_expandAlias [Host] {text : String} {p : Pattern} (valid : read text = .ok p) :
    ∃ q, read (String.ofList (expandAlias text.toList)) = .ok q ∧ q.groups = p.groups ∧
      q.names = p.names ∧ (¬HasLookalike text → q.root = p.root) := by
  obtain ⟨st, rest, done, complete, rfl⟩ := exists_of_read valid
  have ready : Ready (¬HasLookalike text) State.start State.start ⟨[], (tokens text.toList).1⟩ :=
    ⟨.start, nofun, nofun⟩
  have follows := Follows.resume ready fun d whole looks exactly => exactly ⟨d, whole, looks⟩
  obtain ⟨st', d, rfl, -, done', alike⟩ := follows st rest done
  have done' : readTokens.outcome (tokens (expandAlias text.toList)).1 = .ok (st', d.symbols) := by
    rw [tokens_expandAlias]
    exact done'
  refine ⟨⟨String.ofList (expandAlias text.toList), st'.level.node, st'.widths.size,
    st'.names.reverse⟩, ?_, alike.size.symm, by rw [alike.names],
    fun exactly => (alike.level.node exactly).symm⟩
  rw [read_eq, String.toList_ofList, done', tokens_expandAlias, complete]
  rfl

/-- What a pattern finds depends on its tree and on the number of its groups. -/
theorem search_congr {p q : Pattern} (root : q.root = p.root) (groups : q.groups = p.groups)
    (s : String) : q.search s = p.search s ∧ q.matchStart s = p.matchStart s := by
  have at_eq (text : Array Char) (position : Nat) (finish : Continuation) :
      q.matchAt text position finish = p.matchAt text position finish := by
    rw [matchAt, matchAt, root, groups]
  refine ⟨?_, at_eq _ _ _⟩
  have last_eq (text : Array Char) (left : Nat) :
      q.searchLast text left = p.searchLast text left := by
    induction left with
    | zero => exact at_eq _ _ _
    | succ left ih => rw [searchLast, searchLast, at_eq, ih]
  exact last_eq _ _

/-- A pattern that is right as it stands is accepted, whatever was told before; its groups keep
their numbers and names. Where nothing in it looks like a named group and is none, the same is
found in every text. -/
theorem compile_standing [Host] {text : String} {p : Pattern} (valid : read text = .ok p) :
    ∃ q : Pattern, (∀ told, (compile text told).1 = .ok q) ∧ q.groups = p.groups ∧
      q.names = p.names ∧
      (¬HasLookalike text → ∀ s, q.search s = p.search s ∧ q.matchStart s = p.matchStart s) := by
  obtain ⟨q, read, groups, names, same⟩ := read_expandAlias valid
  refine ⟨q, fun told => ?_, groups, names, fun exactly => search_congr (same exactly) groups⟩
  rw [compile]
  dsimp only
  rw [read]
  split <;> rfl

/-- Without escaped parentheses and without sets there is nothing that only looks like a group. -/
theorem not_hasLookalike {text : String} (noEscape : .escape '(' ∉ (tokens text.toList).1)
    (noSet : .char '[' ∉ (tokens text.toList).1) : ¬HasLookalike text := by
  rintro ⟨c, whole, -, escaped | ⟨members, outside, caret, before, -⟩⟩
  · refine noEscape ?_
    rw [← whole]
    refine List.mem_append_left _ (List.mem_reverse.mpr (List.mem_of_mem_tail ?_))
    exact List.mem_of_head? escaped
  · refine noSet ?_
    rw [← whole, Cursor.whole, before]
    simp

theorem setLookalike : HasLookalike "[(?<a]" := by
  refine ⟨⟨[.char '?', .char '(', .char '['], [.char '<', .char 'a', .char ']']⟩, by decide, rfl,
    .inr ⟨[.char '(', .char '?'], [], [], rfl, .inl rfl, by decide⟩⟩

def setOf (letters : String) : Node :=
  .one { items := letters.toList.map fun c => .one c.toNat }

def commented : String := "(?#(?<a)\\N\x7bDIGIT ONE\x7d"

theorem read_commented : read commented = .ok ⟨commented, .char '1', 0, []⟩ := by
  let name : List Token := "DIGIT ONE".toList.map .char
  let digit : List Token := .escape 'N' :: .char '\x7b' :: (name ++ [.char '\x7d'])
  let comment : List Token := "?#(?<a)".toList.map .char
  have symbols : tokens commented.toList = (.char '(' :: (comment ++ digit), false) := by decide
  have passed : (State.start.step (.char '(')).outcome (comment ++ digit) =
      .ok (State.start, digit) := rfl
  have known : Host.charNamed? (String.ofList "DIGIT ONE".toList) = some '1' := by decide +kernel
  have done : readTokens.outcome (.char '(' :: (comment ++ digit)) =
      .ok (State.start.pushCode 49, []) :=
    calc (resume State.start).outcome (.char '(' :: (comment ++ digit))
        = (resume State.start).outcome digit := resume_cons passed
      _ = (resume (State.start.pushCode 49)).outcome [] :=
        resume_cons (step_named known (by decide) State.start [])
      _ = .ok (State.start.pushCode 49, []) := resume_nil _
  rw [read_eq, symbols, done]
  rfl

/-- A comment that names a group in the second spelling, before a character that is called by its
name, and a set with the characters of one. The comment changes nothing; the set gets the letter as
a member. -/
theorem compile_standing_commentAndSet :
    (∃ p q : Pattern, read commented = .ok p ∧ (∀ told, (compile commented told).1 = .ok q) ∧
      ∀ s, q.search s = p.search s ∧ q.matchStart s = p.matchStart s) ∧
    ∃ p q : Pattern, read "[(?<a]" = .ok p ∧ (∀ told, (compile "[(?<a]" told).1 = .ok q) ∧
      q.groups = p.groups ∧ q.names = p.names ∧ HasLookalike "[(?<a]" ∧
      p.finds "P" = false ∧ q.finds "P" = true := by
  constructor
  · obtain ⟨q, accepted, -, -, same⟩ := compile_standing read_commented
    exact ⟨_, q, read_commented, accepted, same (not_hasLookalike (by decide) (by decide))⟩
  have valid : read "[(?<a]" = .ok ⟨"[(?<a]", setOf "(?<a", 0, []⟩ := by cbv
  have letter : String.ofList (expandAlias "[(?<a]".toList) = "[(?P<a]" := by decide
  have expanded : read "[(?P<a]" = .ok ⟨"[(?P<a]", setOf "(?P<a", 0, []⟩ := by cbv
  have calm : isRisky "[(?P<a]" = false := by decide
  obtain ⟨r, accepted, groups, names, -⟩ := compile_standing valid
  have same : ⟨"[(?P<a]", setOf "(?P<a", 0, []⟩ = r := by
    have answer := accepted #[]
    simp only [compile, letter, expanded, calm, Bool.false_eq_true, if_false, Run.pure_apply,
      Except.ok.injEq] at answer
    exact answer
  refine ⟨_, r, valid, accepted, groups, names, setLookalike, by decide, ?_⟩
  rw [← same]
  decide

end BuildLog.Pattern
