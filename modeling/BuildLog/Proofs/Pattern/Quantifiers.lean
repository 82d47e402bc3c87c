import BuildLog.Proofs.Pattern.Likeness
import BuildLog.Proofs.Pattern.Sets

/-! Escapes outside of sets, references and quantifiers, read side by side in states that are
alike. -/
namespace BuildLog.Pattern

/-- The symbol before is no question mark and no parenthesis, so that no site can begin. -/
def Cursor.IsSettled (c : Cursor) : Prop :=
  ∀ t ∈ c.before.head?, t ≠ .char '?' ∧ isParenthesisToken t = false

variable {α β : Type} {exact : Prop} {c : Cursor} {st st' : State}

def Settled (exact : Prop) (st st' : State) (d : Cursor) : Prop :=
  st.Alike exact st' ∧ d.IsSettled

theorem Cursor.isSettled_of_char {ch : Char} (last : c.before.head? = some (.char ch))
    (mark : ch ≠ '?') (opening : ch ≠ '(') : c.IsSettled := by
  intro t first
  rw [last] at first
  cases first
  simp [mark, isParenthesisToken, opening]

theorem Cursor.IsSettled.not_isSite (settled : c.IsSettled) : c.isSite = false := by
  refine Bool.eq_false_iff.mpr fun site => ?_
  obtain ⟨_, _, _, _, -, -, rfl⟩ := Cursor.exists_of_isSite site
  exact absurd rfl (settled _ rfl).1

theorem Cursor.IsSettled.passes {d : Cursor} (settled : c.IsSettled)
    (passes : c.Passes IsQuiet d) : d.IsSettled := by
  obtain ⟨taken, quiet, -, before⟩ := passes
  rw [Cursor.IsSettled, before]
  cases reversed : taken.reverse with
  | nil => exact settled
  | cons t rest =>
    rintro _ ⟨⟩
    refine (quiet t ?_).2
    rw [← List.mem_reverse, reversed]
    exact List.mem_cons_self

namespace Follows

theorem checkBehind (alike : st.Alike exact st') (index : Nat) :
    Follows c (st.checkBehind index) (st'.checkBehind index) fun _ _ d => d = c := by
  unfold State.checkBehind
  rw [← alike.behind]
  split
  · exact of_pure rfl
  next count behind =>
    have closed := alike.closed index
    generalize st.closed? index = w, st'.closed? index = w' at closed
    cases closed with
    | none => exact of_stop _ _
    | some width =>
      simp only [Option.isNone_some, Bool.false_eq_true, if_false]
      split
      · exact of_stop _ _
      · exact of_pure rfl

theorem reference (alike : st.Alike exact st') (index back back' : Nat) :
    Follows c (st.reference index back) (st'.reference index back')
      fun st st' d => st.Alike exact st' ∧ d = c := by
  unfold State.reference
  have closed := alike.closed index
  generalize st.closed? index = w, st'.closed? index = w' at closed
  cases closed with
  | none => exact of_stop _ _
  | some width =>
    refine (checkBehind alike index).bind ?_
    rintro _ _ d - rfl
    refine of_pure ⟨alike.push ⟨rfl, width, fun _ => ?_⟩, rfl⟩
    rw [alike.mode]

theorem digitEscape (alike : st.Alike exact st') (ch : Char) :
    Follows c (st.digitEscape ch) (st'.digitEscape ch)
      fun st st' d => st.Alike exact st' ∧ c.Passes IsQuiet d := by
  -- a code point if there is a third digit, else a group
  have done (second third : List Char) (d : Cursor) (passes : c.Passes IsQuiet d) :
      Follows d
        (if (!third.isEmpty) = true then do
          return st.pushCode (← Pattern.octalValue (ch :: second ++ third))
        else if valueIn 10 (ch :: second) ≤ st.widths.size then
          st.reference (valueIn 10 (ch :: second)) ((ch :: second).length + 1)
        else stop (.noSuchGroup (valueIn 10 (ch :: second))) (ch :: second).length)
        (if (!third.isEmpty) = true then do
          return st'.pushCode (← Pattern.octalValue (ch :: second ++ third))
        else if valueIn 10 (ch :: second) ≤ st'.widths.size then
          st'.reference (valueIn 10 (ch :: second)) ((ch :: second).length + 1)
        else stop (.noSuchGroup (valueIn 10 (ch :: second))) (ch :: second).length)
        fun st st' d => st.Alike exact st' ∧ c.Passes IsQuiet d := by
    split
    · refine (octalValue _).bind ?_
      rintro n _ _ - ⟨rfl, rfl⟩
      exact of_pure ⟨alike.pushCode n, passes⟩
    rw [← alike.size]
    split
    · refine (reference alike _ _ _).mono ?_
      rintro _ _ _ - ⟨alike, rfl⟩
      exact ⟨alike, passes⟩
    · exact of_stop _ _
  refine (takeUpTo (by decide) (by decide) 1).bind ?_
  rintro second _ d - ⟨rfl, passes⟩
  have passes : c.Passes IsQuiet d := passes.mono fun _ => isQuiet_of_isChar rfl rfl rfl
  dsimp only
  split
  · refine (octalDigits 1).bind ?_
    rintro third _ e - ⟨rfl, passes'⟩
    exact of_pure_bind (done _ _ e (passes.trans passes'))
  · exact of_pure_bind (done _ [] d passes)

theorem escape [Host] (alike : st.Alike exact st') (settled : c.IsSettled) (ch : Char) :
    Follows c (st.escape ch) (st'.escape ch) (Settled exact) := by
  have anchors : st'.anchorEscape? ch = st.anchorEscape? ch := by
    unfold State.anchorEscape?
    rw [alike.mode]
  unfold State.escape
  rw [anchors]
  split
  · exact of_pure ⟨alike.pushClass false fun _ => rfl, settled⟩
  · exact of_pure ⟨alike.pushAnchor _, settled⟩
  · exact of_pure ⟨alike.pushCode _, settled⟩
  next scan some _ _ _ =>
    refine (codeEscape some).bind ?_
    rintro n _ d - ⟨rfl, passes⟩
    exact of_pure ⟨alike.pushCode n, settled.passes passes⟩
  split
  · refine (octalDigits 2).bind ?_
    rintro more _ d - ⟨rfl, passes⟩
    exact of_pure ⟨alike.pushCode _, settled.passes passes⟩
  split
  · refine (digitEscape alike ch).mono ?_
    rintro _ _ d - ⟨alike, passes⟩
    exact ⟨alike, settled.passes passes⟩
  · refine (plainEscape ch).bind ?_
    rintro n _ d - ⟨rfl, passes⟩
    exact of_pure ⟨alike.pushCode n, settled.passes passes⟩

end Follows

namespace Cursor

def pastDigits (c : Cursor) : Cursor :=
  ⟨(c.ahead.takeWhile (Token.isChar Char.isDigit)).reverse ++ c.before,
    c.ahead.dropWhile (Token.isChar Char.isDigit)⟩

theorem symbols_digits (c : Cursor) :
    c.symbols = c.ahead.takeWhile (Token.isChar Char.isDigit) ++ c.pastDigits.symbols := by
  refine symbols_append (List.takeWhile_append_dropWhile).symm ?_
  intro angle
  have digit := List.all_eq_true.mp List.all_takeWhile _ angle
  cases digit

theorem takeWhile_symbols_digits (c : Cursor) :
    c.symbols.takeWhile (Token.isChar Char.isDigit) =
      c.ahead.takeWhile (Token.isChar Char.isDigit) := by
  have same := Follows.takeUpTo_symbols (p := Token.isChar Char.isDigit) (by decide) (by decide)
    (max c.symbols.length c.ahead.length) c
  rwa [List.take_of_length_le (Nat.le_max_left _ _),
    List.take_of_length_le (Nat.le_max_right _ _)] at same

theorem dropWhile_symbols_digits (c : Cursor) :
    c.symbols.dropWhile (Token.isChar Char.isDigit) = c.pastDigits.symbols := by
  have whole : c.symbols.takeWhile (Token.isChar Char.isDigit) ++
      c.symbols.dropWhile (Token.isChar Char.isDigit) =
        c.symbols.takeWhile (Token.isChar Char.isDigit) ++ c.pastDigits.symbols := by
    rw [List.takeWhile_append_dropWhile, takeWhile_symbols_digits, ← symbols_digits]
  exact List.append_cancel_left whole

theorem head_pastDigits {c : Cursor} {t : Token} (angle : t ≠ .char '<')
    (letter : t ≠ .char 'P') :
    (c.symbols.dropWhile (Token.isChar Char.isDigit)).head? = some t ↔
      (c.ahead.dropWhile (Token.isChar Char.isDigit)).head? = some t := by
  rw [dropWhile_symbols_digits]
  exact head_symbols angle letter

end Cursor

theorem charsOf_length {ts : List Token} (single : ∀ t ∈ ts, ∃ ch, t = .char ch) :
    (charsOf ts).length = ts.length := by
  induction ts with
  | nil => rfl
  | cons t ts ih =>
    obtain ⟨⟨ch, rfl⟩, later⟩ := List.forall_mem_cons.mp single
    rw [charsOf, List.flatMap_cons, List.length_append]
    change 1 + (charsOf ts).length = _
    rw [ih later, List.length_cons, Nat.add_comm]

/-- The characters of digits are as many as their symbols. -/
theorem digits_length (ts : List Token) :
    (charsOf (ts.takeWhile (Token.isChar Char.isDigit))).length =
      (ts.takeWhile (Token.isChar Char.isDigit)).length := by
  refine charsOf_length fun t member => ?_
  have digit := List.all_eq_true.mp List.all_takeWhile t member
  cases t with
  | char ch => exact ⟨ch, rfl⟩
  | escape ch => cases digit

theorem drop_digits (ts : List Token) :
    ts.drop (charsOf (ts.takeWhile (Token.isChar Char.isDigit))).length =
      ts.dropWhile (Token.isChar Char.isDigit) := by
  calc ts.drop (charsOf (ts.takeWhile (Token.isChar Char.isDigit))).length =
        (ts.takeWhile (Token.isChar Char.isDigit) ++ ts.dropWhile (Token.isChar Char.isDigit)).drop
          (ts.takeWhile (Token.isChar Char.isDigit)).length := by
        rw [digits_length, List.takeWhile_append_dropWhile]
    _ = ts.dropWhile (Token.isChar Char.isDigit) := List.drop_left

/-- The counts in braces are given by the symbols at the ends of the runs of digits. -/
theorem counts?_eq (ts : List Token) :
    counts? ts =
      let low := charsOf (ts.takeWhile (Token.isChar Char.isDigit))
      let rest := ts.dropWhile (Token.isChar Char.isDigit)
      let high := charsOf (rest.tail.takeWhile (Token.isChar Char.isDigit))
      if rest.head? = some (.char ',') then
        if (rest.tail.dropWhile (Token.isChar Char.isDigit)).head? = some (.char '\x7d') then
          some (low, high, low.length + high.length + 2)
        else none
      else if rest.head? = some (.char '\x7d') then some (low, low, low.length + 1)
      else none := by
  unfold counts?
  dsimp only
  rw [drop_digits]
  split
  next r comma =>
    rw [comma, List.head?_cons, if_pos rfl, List.tail_cons, ← drop_digits, List.head?_drop]
    simp only [beq_iff_eq]
  next r brace =>
    rw [brace, List.head?_cons, if_neg (by simp), if_pos rfl]
  next noComma noBrace =>
    cases rest : ts.dropWhile (Token.isChar Char.isDigit) with
    | nil => rfl
    | cons t r =>
      rw [List.head?_cons, if_neg, if_neg]
      · rintro ⟨⟩
        exact noBrace r rest
      · rintro ⟨⟩
        exact noComma r rest

theorem counts?_symbols (c : Cursor) : counts? c.symbols = counts? c.ahead := by
  rw [counts?_eq, counts?_eq, Cursor.takeWhile_symbols_digits]
  dsimp only
  simp only [Cursor.head_pastDigits (t := .char ',') (by decide) (by decide),
    Cursor.head_pastDigits (t := .char '\x7d') (by decide) (by decide)]
  split
  next comma =>
    obtain ⟨rest, ahead⟩ : ∃ rest,
        c.ahead.dropWhile (Token.isChar Char.isDigit) = .char ',' :: rest :=
      List.head?_eq_some_iff.mp comma
    have ahead' : c.pastDigits.ahead = .char ',' :: rest := ahead
    have plain := Cursor.not_isSite_of_ahead ahead' (by decide)
    rw [Cursor.dropWhile_symbols_digits, Cursor.symbols_cons plain ahead', ahead,
      List.tail_cons, List.tail_cons, Cursor.takeWhile_symbols_digits, Cursor.past_ahead]
    simp only [Cursor.head_pastDigits (t := .char '\x7d') (by decide) (by decide),
      Cursor.past_ahead]
  · rfl

/-- The counts end at the closing brace. -/
theorem counts?_run {ts : List Token} {low high : List Char} {n : Nat}
    (given : counts? ts = some (low, high, n)) :
    ∃ run rest, ts = run ++ .char '\x7d' :: rest ∧ n = run.length + 1 ∧ .char '<' ∉ run := by
  have noAngle (ts : List Token) : .char '<' ∉ ts.takeWhile (Token.isChar Char.isDigit) := by
    intro angle
    have digit := List.all_eq_true.mp List.all_takeWhile _ angle
    cases digit
  have split (ts rest : List Token) (same : ts.dropWhile (Token.isChar Char.isDigit) = rest) :
      ts = ts.takeWhile (Token.isChar Char.isDigit) ++ rest := by
    rw [← same, List.takeWhile_append_dropWhile]
  rw [counts?_eq] at given
  dsimp only at given
  split at given
  next comma =>
    split at given
    next brace =>
      obtain ⟨rest, afterLow⟩ := List.head?_eq_some_iff.mp comma
      rw [afterLow, List.tail_cons] at brace given
      obtain ⟨rest', afterHigh⟩ := List.head?_eq_some_iff.mp brace
      cases given
      refine ⟨ts.takeWhile (Token.isChar Char.isDigit) ++
        .char ',' :: rest.takeWhile (Token.isChar Char.isDigit), rest', ?_, ?_, ?_⟩
      · rw [List.append_assoc, List.cons_append, ← split rest _ afterHigh]
        exact split ts _ afterLow
      · simp only [digits_length, List.length_append, List.length_cons]
        omega
      · simp [noAngle]
    · cases given
  split at given
  next brace =>
    obtain ⟨rest, afterLow⟩ := List.head?_eq_some_iff.mp brace
    cases given
    exact ⟨_, rest, split ts _ afterLow, by rw [digits_length], noAngle ts⟩
  · cases given

namespace Follows

theorem dropCounts {low high : List Char} {n : Nat}
    (given : counts? c.ahead = some (low, high, n)) :
    Follows c (Scan.drop n) (Scan.drop n) fun _ _ d => d.before.head? = some (.char '\x7d') := by
  obtain ⟨run, rest, ahead, rfl, noAngle⟩ := counts?_run given
  let taken := run ++ [Token.char '\x7d']
  have ahead : c.ahead = taken ++ rest := by simp [taken, ahead]
  have length : run.length + 1 = taken.length := by simp [taken]
  have kept := Cursor.symbols_append ahead (by simpa [taken] using noAngle)
  rintro _ _ ⟨⟩
  refine ⟨(), ⟨taken.reverse ++ c.before, rest⟩, ?_, ?_, ?_, ?_⟩
  · change rest = c.ahead.drop (run.length + 1)
    rw [ahead, length, List.drop_left]
  · simp [Cursor.whole, ahead]
  · change Except.ok ((), c.symbols.drop (run.length + 1)) = _
    rw [kept, length, List.drop_left]
  · simp [taken]

/-- What both make of the sign of a quantifier and of the counts behind it. -/
def SameLimits (c : Cursor) (ch : Char) (a b : Option (Nat × Option Nat)) (d : Cursor) : Prop :=
  a = b ∧ (d = c ∨ d.before.head? = some (.char '\x7d')) ∧
    (ch = '?' → a = some (0, some 1) ∧ d = c) ∧
    ∀ low high, a = some (low, high) → ∀ n ∈ high, low ≤ n

theorem count (digits : List Char) :
    Follows c (count? digits) (count? digits) fun a b d => a = b ∧ d = c := by
  unfold count?
  split
  · exact of_pure ⟨rfl, rfl⟩
  split
  · exact of_stopWith _
  split
  · exact of_stopWith _
  · exact of_pure ⟨rfl, rfl⟩

theorem limits (ch : Char) : Follows c (limits? ch) (limits? ch) (SameLimits c ch) := by
  unfold limits?
  split
  next mark =>
    refine of_pure ⟨rfl, .inl rfl, fun _ => ⟨rfl, rfl⟩, ?_⟩
    rintro _ _ ⟨⟩ _ ⟨⟩
    exact Nat.zero_le 1
  next notMark =>
    have other (a : Option (Nat × Option Nat)) (d : Cursor) (same : ch = '?') :
        a = some (0, some 1) ∧ d = c :=
      absurd (beq_iff_eq.mpr same) notMark
    split
    · refine of_pure ⟨rfl, .inl rfl, other _ _, ?_⟩
      rintro _ _ ⟨⟩ _ ⟨⟩
    split
    · refine of_pure ⟨rfl, .inl rfl, other _ _, ?_⟩
      rintro _ _ ⟨⟩ _ ⟨⟩
    refine rest.bind ?_
    rintro _ _ d - ⟨rfl, rfl, rfl⟩
    have heads : (d.symbols.head? == some (.char '\x7d')) =
        (d.ahead.head? == some (.char '\x7d')) := by
      rw [Bool.eq_iff_iff, beq_iff_eq, beq_iff_eq]
      exact Cursor.head_symbols (by decide) (by decide)
    rw [heads, counts?_symbols]
    have none : SameLimits d ch none none d :=
      ⟨rfl, .inl rfl, other _ _, nofun⟩
    split
    · exact of_pure none
    split
    · exact of_pure none
    next low high length given =>
      refine (dropCounts given).bind ?_
      rintro _ _ e - brace
      refine (count low).bind ?_
      rintro least _ _ - ⟨rfl, rfl⟩
      refine (count high).bind ?_
      rintro most _ _ - ⟨rfl, rfl⟩
      dsimp only
      split
      · exact of_stopAt _ _
      next ordered =>
        refine of_pure ⟨rfl, .inr brace, other _ _, ?_⟩
        rintro _ _ ⟨⟩ n ⟨⟩
        simpa using ordered

theorem greed :
    Follows c greedSign greedSign fun a b d =>
      a = b ∧ (d = c ∨ ∃ sign, d.before = sign :: c.before ∧ isParenthesisToken sign = false) := by
  unfold greedSign
  refine (skip fun _ => by decide).bind ?_
  rintro _ _ d - (⟨rfl, rfl, -, behind⟩ | ⟨rfl, rfl, rfl, -⟩)
  · exact of_pure ⟨rfl, .inr ⟨.char '?', by rw [behind]; rfl, by decide⟩⟩
  refine (skip fun _ => by decide).bind ?_
  rintro _ _ e - (⟨rfl, rfl, -, behind⟩ | ⟨rfl, rfl, rfl, -⟩)
  · exact of_pure ⟨rfl, .inr ⟨.char '+', by rw [behind]; rfl, by decide⟩⟩
  · exact of_pure ⟨rfl, .inl rfl⟩

end Follows

/-- Where a site may begin with what comes next, the row ends with what the parenthesis of the site
stands for, and that parenthesis is behind a backslash. -/
structure Cursor.IsReady (c : Cursor) (row : Row) : Prop where
  opened : ∀ t older rest, c.before = t :: older → isParenthesisToken t = true →
    c.ahead = .char '?' :: rest →
    t = .escape '(' ∧ ∃ p r, row = p :: r ∧ p.width = .single
  asked : ∀ t older, c.before = .char '?' :: t :: older → isParenthesisToken t = true →
    c.ahead ≠ [] → t = .escape '(' ∧ ∃ p r, row = p :: r ∧ p.width.IsLoose

theorem Cursor.IsSettled.isReady (settled : c.IsSettled) (row : Row) : c.IsReady row where
  opened t older rest before opening _ := by
    rw [Cursor.IsSettled, before] at settled
    rw [(settled t rfl).2] at opening
    cases opening
  asked t older before _ := by
    rw [Cursor.IsSettled, before] at settled
    exact absurd rfl (settled _ rfl).1

def Ready (exact : Prop) (st st' : State) (d : Cursor) : Prop :=
  st.Alike exact st' ∧ d.IsReady st.level.row

theorem Settled.ready {d : Cursor} (settled : Settled exact st st' d) : Ready exact st st' d :=
  ⟨settled.1, settled.2.isReady _⟩

/-- Behind a quantifier a site may begin only if the quantifier is the question mark of one. -/
theorem Cursor.isReady_quantified {d e : Cursor} {ch : Char} (opening : ch ≠ '(')
    {rest : List Token}
    (place : d = c.past (.char ch) rest ∨ d.before.head? = some (.char '\x7d'))
    (signed : e = d ∨ ∃ sign, e.before = sign :: d.before ∧ isParenthesisToken sign = false)
    {p : Piece} {row : Row}
    (asked : ∀ t older, c.before = t :: older → isParenthesisToken t = true → ch = '?' →
      t = .escape '(' ∧ p.width.IsLoose) :
    e.IsReady (p :: row) := by
  have last (t : Token) (older : List Token) (before : d.before = t :: older) :
      isParenthesisToken t = false := by
    rcases place with rfl | brace
    · cases before
      simp [isParenthesisToken, opening]
    · rw [before] at brace
      cases brace
      rfl
  constructor
  · intro t older _ before isOpening _
    rcases signed with rfl | ⟨sign, before', plain⟩
    · rw [last t older before] at isOpening
      cases isOpening
    · rw [before'] at before
      cases before
      rw [plain] at isOpening
      cases isOpening
  · intro t older before isOpening _
    rcases signed with rfl | ⟨sign, before', -⟩
    · rcases place with rfl | brace
      · obtain ⟨mark, before⟩ := List.cons.inj before
        obtain ⟨escaped, loose⟩ := asked t older before isOpening (Token.char.inj mark)
        exact ⟨escaped, p, row, rfl, loose⟩
      · rw [before] at brace
        cases brace
    · rw [before'] at before
      rw [last t older (List.cons.inj before).2] at isOpening
      cases isOpening

namespace Follows

theorem repeatLast (alike : st.Alike exact st') {ch : Char} (opening : ch ≠ '(')
    {later : List Token} (ahead : c.ahead = .char ch :: later) (ready : c.IsReady st.level.row) :
    Follows (c.past (.char ch) later) (st.repeatLast ch) (st'.repeatLast ch) (Ready exact) := by
  unfold State.repeatLast
  refine rest.bind ?_
  rintro _ _ _ - ⟨rfl, -, -⟩
  refine (limits ch).bind ?_
  rintro a _ d - ⟨rfl, place, mark, ordered⟩
  dsimp only
  split
  next =>
    refine of_pure (Settled.ready ⟨alike.pushCode _, ?_⟩)
    rcases place with rfl | brace
    · refine Cursor.isSettled_of_char rfl ?_ opening
      rintro rfl
      cases (mark rfl).1
    · exact Cursor.isSettled_of_char brace (by decide) (by decide)
  next least most =>
    have row := alike.level.row
    have moved {r s : Row} (row : r.Alike exact s) := alike.withRow row
    generalize same : st.level.row = r, st'.level.row = r' at row
    cases row with
    | nil => exact of_stopAt _ _
    | @cons p q r s piece width same' =>
      dsimp only
      rw [← piece.role]
      split
      · exact of_stopAt _ _
      · exact of_stopAt _ _
      refine greed.bind ?_
      rintro sign _ e - ⟨rfl, signed⟩
      have repeated : Piece.Alike exact
          ⟨.repeated sign least most p.node, p.width.times least most, .repetition⟩
          ⟨.repeated sign least most q.node, q.width.times least most, .repetition⟩ :=
        ⟨rfl, piece.width.times (ordered least most rfl), fun exactly => by rw [piece.node exactly]⟩
      have next := moved (Row.Alike.cons repeated width same')
      have place' : e.IsReady
          (⟨.repeated sign least most p.node, p.width.times least most, .repetition⟩ :: r) := by
        refine Cursor.isReady_quantified opening place signed ?_
        rintro t older before isOpening rfl
        obtain ⟨escaped, p', r', first, single⟩ :=
          ready.opened t older later before isOpening ahead
        obtain ⟨given, -⟩ := mark rfl
        cases given
        rw [same] at first
        cases first
        refine ⟨escaped, .inl ?_⟩
        rw [single]
        exact Nat.zero_lt_one
      rw [← alike.globals] at next ⊢
      split
      · exact of_pure ⟨next.defer _ _, place'⟩
      · exact of_pure ⟨next, place'⟩

end Follows

end BuildLog.Pattern
