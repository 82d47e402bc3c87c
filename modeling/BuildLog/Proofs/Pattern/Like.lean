import BuildLog.Pattern.Like
import BuildLog.Proofs.Pattern.Reading
import BuildLog.Proofs.Pattern.Spelling

/-! The meaning of patterns with wildcards. They match the texts that they describe character by
character, however the search goes; and to read their spelling in the general notation gives the
same tree, so no character of theirs has the meaning there that it has in other patterns. -/
namespace BuildLog.Pattern

namespace Like

inductive Describes : List Char → List Char → Prop
  | nil : Describes [] []
  | run {p s} (u : List Char) (inside : '\n' ∉ u) (later : Describes p s) :
    Describes ('%' :: p) (u ++ s)
  | single {p s} (c : Char) (inside : c ≠ '\n') (later : Describes p s) :
    Describes ('_' :: p) (c :: s)
  | self {c p s} (notRun : c ≠ '%') (notSingle : c ≠ '_') (later : Describes p s) :
    Describes (c :: p) (c :: s)

theorem nodeOf_isPlain (c : Char) : (nodeOf c).isPlain = true := by
  unfold nodeOf
  split
  · rfl
  · split <;> rfl

theorem spells_node (p u : List Char) : (node p).Spells u ↔ Describes p u := by
  induction p generalizing u with
  | nil =>
    constructor
    · rintro rfl
      exact .nil
    · rintro ⟨⟩
      rfl
  | cons c p ih =>
    rw [node, List.map_cons, Node.spells_seq_cons]
    change (∃ v w, u = v ++ w ∧ (nodeOf c).Spells v ∧ (node p).Spells w) ↔ _
    simp only [ih]
    constructor
    · rintro ⟨v, w, rfl, first, later⟩
      by_cases run : c = '%'
      · subst run
        refine .run v ?_ later
        intro feed
        exact (anyButLineFeed_has '\n').mp (first.2.2 _ feed) rfl
      by_cases single : c = '_'
      · subst single
        obtain ⟨d, rfl, member⟩ := first
        exact .single d ((anyButLineFeed_has d).mp member) later
      · rw [nodeOf, if_neg (by simpa using run), if_neg (by simpa using single),
          Node.spells_char_iff] at first
        subst first
        exact .self run single later
    · intro described
      cases described with
      | run v inside later =>
        refine ⟨v, _, rfl, ⟨Nat.zero_le _, nofun, ?_⟩, later⟩
        intro d member
        exact (anyButLineFeed_has d).mpr fun feed => inside (feed ▸ member)
      | single d inside later =>
        exact ⟨[d], _, rfl, ⟨d, rfl, (anyButLineFeed_has d).mpr inside⟩, later⟩
      | self notRun notSingle later =>
        refine ⟨[c], _, rfl, ?_, later⟩
        rw [nodeOf, if_neg (by simpa using notRun), if_neg (by simpa using notSingle)]
        exact Node.spells_char c

/-- A text is accepted as a whole exactly if the pattern describes it. -/
theorem accepts_iff (like s : String) :
    accepts like s = true ↔ Describes like.toList s.toList := by
  have plain : (pattern like).root.isPlain = true := by
    apply Node.seq_isPlain
    intro n member
    obtain ⟨c, -, rfl⟩ := List.mem_map.mp member
    exact nodeOf_isPlain c
  rw [accepts, matchWhole_isSome plain]
  exact spells_node like.toList s.toList

/-- The symbols of what a character is spelled as. -/
def tokensOf (c : Char) : List Token :=
  if c == '%' then [.char '.', .char '*']
  else if c == '_' then [.char '.']
  else if isSpecial c then [.escape c]
  else [.char c]

theorem tokens_char {c : Char} (plain : c ≠ '\\') (rest : List Char) :
    tokens (c :: rest) = (.char c :: (tokens rest).1, (tokens rest).2) := by
  rw [tokens]
  · rintro rfl
    exact absurd rfl plain
  · rintro d tail rfl
    exact absurd rfl plain

theorem tokens_sourceOf_append (c : Char) (rest : List Char) :
    tokens (sourceOf c ++ rest) = (tokensOf c ++ (tokens rest).1, (tokens rest).2) := by
  unfold sourceOf tokensOf
  split
  · simp [tokens_char]
  split
  · simp [tokens_char]
  split
  · simp [tokens]
  next plain =>
    have solid : c ≠ '\\' := by
      rintro rfl
      exact plain (by decide)
    simp [tokens_char solid]

theorem tokens_source (p : List Char) :
    tokens (p.flatMap sourceOf) = (p.flatMap tokensOf, false) := by
  induction p with
  | nil => rfl
  | cons c p ih => rw [List.flatMap_cons, tokens_sourceOf_append, ih, List.flatMap_cons]

def pieceOf (c : Char) : Piece where
  node := nodeOf c
  width := if c == '%' then Width.single.times 0 none else .single
  role := if c == '%' then .repetition else .item

theorem pieceOf_self {c : Char} (notRun : c ≠ '%') (notSingle : c ≠ '_') :
    pieceOf c = ⟨.char c, .single, .item⟩ := by
  simp [pieceOf, nodeOf, notRun, notSingle]

def readerAt (row : Row) : State :=
  { State.start with level := { State.start.level with row := row } }

/-- No symbol that would change the repetition before it. -/
def IsCalm (ts : List Token) : Prop := ∀ t ∈ ts.head?, t ≠ .char '?' ∧ t ≠ .char '+'

theorem step_dot [Host] (row : Row) (ts : List Token) :
    ((readerAt row).step (.char '.')).outcome ts = .ok (readerAt (pieceOf '_' :: row), ts) := rfl

theorem greedSign_outcome {ts : List Token} (calm : IsCalm ts) :
    greedSign.outcome ts = .ok (.greedy, ts) := by
  have passed (c : Char) (other : ∀ t ∈ ts.head?, t ≠ .char c) :
      Scan.outcome (ε := Stop) (Scan.skip? (.char c)) ts = .ok (false, ts) := by
    cases ts with
    | nil => rfl
    | cons t ts => simp [Scan.outcome, Scan.skip?, Except.map, other t rfl]
  rw [greedSign, Scan.outcome_bind, passed '?' fun t first => (calm t first).1]
  dsimp only
  rw [if_neg (by simp), Scan.outcome_bind, passed '+' fun t first => (calm t first).2]
  rfl

theorem step_star [Host] (row : Row) {ts : List Token} (calm : IsCalm ts) :
    ((readerAt (pieceOf '_' :: row)).step (.char '*')).outcome ts =
      .ok (readerAt (pieceOf '%' :: row), ts) := by
  change ((readerAt (pieceOf '_' :: row)).repeatLast '*').outcome ts = _
  have limits : (limits? '*').outcome ts = .ok (some (0, none), ts) := rfl
  rw [State.repeatLast, Scan.outcome_bind]
  change Scan.outcome (limits? '*' >>= _) ts = _
  rw [Scan.outcome_bind, limits]
  change Scan.outcome (greedSign >>= _) ts = _
  rw [Scan.outcome_bind, greedSign_outcome calm]
  rfl

/-- Behind a backslash a character that is no letter and no digit stands for itself. -/
theorem escape_outcome [Host] {c : Char} (symbol : c.isAlphanum = false) (st : State)
    (ts : List Token) : (st.escape c).outcome ts = .ok (st.pushCode c.toNat, ts) := by
  have category : categoryEscape? c = none := by
    unfold categoryEscape?
    split <;> first | rfl | cases symbol
  have anchor : st.anchorEscape? c = none := by
    unfold State.anchorEscape?
    split <;> first | rfl | cases symbol
  have apart (d : Char) (other : d.isAlphanum = true) : (c == d) = false := by
    rw [beq_eq_false_iff_ne]
    rintro rfl
    rw [other] at symbol
    cases symbol
  have code : codeEscape? c = none := by
    simp [codeEscape?, apart 'x' (by decide), apart 'u' (by decide), apart 'U' (by decide),
      apart 'N' (by decide)]
  have control : controlEscape? c = none ∨ controlEscape? c = some c.toNat := by
    unfold controlEscape?
    split <;> first | exact .inl rfl | exact .inr rfl | cases symbol
  have digit : c.isDigit = false := by
    simp only [Char.isAlphanum, Bool.or_eq_false_iff] at symbol
    exact symbol.2
  rw [State.escape, category, anchor, code]
  rcases control with none | some
  · rw [none]
    simp only [apart '0' (by decide), digit, Bool.false_eq_true, if_false, plainEscape, symbol]
    rfl
  · rw [some]
    rfl

theorem isSpecial_symbol {c : Char} (special : isSpecial c = true) :
    c.isAlphanum = false ∧ c ≠ '%' ∧ c ≠ '_' := by
  have known : "()[]\x7b\x7d?*+-|^$\\.&~# \t\n\r\x0b\x0c".toList.all
      (fun d => !d.isAlphanum && d != '%' && d != '_') = true := by decide
  have symbol := List.all_eq_true.mp known c (List.contains_iff_mem.mp special)
  simpa [and_assoc] using symbol

theorem step_escape [Host] {c : Char} (special : isSpecial c = true) (row : Row) (ts : List Token) :
    ((readerAt row).step (.escape c)).outcome ts = .ok (readerAt (pieceOf c :: row), ts) := by
  obtain ⟨symbol, notRun, notSingle⟩ := isSpecial_symbol special
  rw [State.step, escape_outcome symbol, pieceOf_self notRun notSingle]
  rfl

theorem step_char [Host] {c : Char} (notRun : c ≠ '%') (notSingle : c ≠ '_')
    (plain : isSpecial c = false) (row : Row) (ts : List Token) :
    ((readerAt row).step (.char c)).outcome ts = .ok (readerAt (pieceOf c :: row), ts) := by
  have apart (d : Char) (special : isSpecial d = true) : (c == d) = false := by
    rw [beq_eq_false_iff_ne]
    rintro rfl
    rw [special] at plain
    cases plain
  rw [State.step]
  simp only [apart '[' rfl, apart '*' rfl, apart '+' rfl, apart '?' rfl, apart '\x7b' rfl,
    apart '.' rfl, apart '(' rfl, apart ')' rfl, apart '|' rfl, apart '^' rfl, apart '$' rfl]
  rw [pieceOf_self notRun notSingle]
  rfl

/-- A character of the pattern becomes one piece, if what follows leaves it alone. -/
theorem resume_tokensOf [Host] (c : Char) (row : Row) {ts : List Token} (calm : IsCalm ts) :
    (resume (readerAt row)).outcome (tokensOf c ++ ts) =
      (resume (readerAt (pieceOf c :: row))).outcome ts := by
  unfold tokensOf
  split
  next run =>
    -- only a repetition looks at the symbol behind it
    obtain rfl : c = '%' := beq_iff_eq.mp run
    exact (resume_cons (step_dot row _)).trans (resume_cons (step_star row calm))
  next notRun =>
    split
    next single =>
      obtain rfl : c = '_' := beq_iff_eq.mp single
      exact resume_cons (step_dot row ts)
    next notSingle =>
      split
      next special => exact resume_cons (step_escape special row ts)
      next plain =>
        refine resume_cons (step_char ?_ ?_ (by simpa using plain) row ts)
        · simpa using notRun
        · simpa using notSingle

theorem isCalm_tokens (p : List Char) : IsCalm (p.flatMap tokensOf) := by
  cases p with
  | nil => exact fun t first => nomatch first
  | cons c p =>
    rw [List.flatMap_cons]
    unfold tokensOf
    intro t first
    split at first
    · cases first
      decide
    split at first
    · cases first
      decide
    split at first
    · cases first
      simp
    next plain =>
      cases first
      constructor
      · rintro ⟨⟩
        exact plain (by decide)
      · rintro ⟨⟩
        exact plain (by decide)

theorem resume_tokens [Host] (p : List Char) (row : Row) :
    (resume (readerAt row)).outcome (p.flatMap tokensOf) =
      .ok (readerAt ((p.map pieceOf).reverse ++ row), []) := by
  induction p generalizing row with
  | nil =>
    rw [List.flatMap_nil, resume_nil]
    rfl
  | cons c p ih =>
    rw [List.flatMap_cons, resume_tokensOf c row (isCalm_tokens p), ih]
    simp

/-- What is read from the spelling in the general notation is the tree of the pattern itself. -/
theorem read_source [Host] (like : String) : Pattern.read (source like) = .ok (pattern like) := by
  have symbols : tokens (source like).toList = (like.toList.flatMap tokensOf, false) := by
    rw [source, String.toList_ofList, tokens_source]
  have start : readTokens.outcome (like.toList.flatMap tokensOf) = _ :=
    resume_tokens like.toList []
  have tree : (readerAt ((like.toList.map pieceOf).reverse ++ [])).level.node =
      node like.toList := by
    change Node.seq (((like.toList.map pieceOf).reverse ++ []).reverse.map Piece.node) = _
    simp only [List.append_nil, List.reverse_reverse, List.map_map]
    rfl
  rw [read_eq, symbols, start]
  dsimp only
  rw [tree]
  rfl

example : source "a_b%c++" = "a.b.*c\\+\\+" := by decide

end Like

end BuildLog.Pattern
