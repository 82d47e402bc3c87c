import BuildLog.Pattern.Reader
import Mathlib.Data.List.Forall2

/-! States of the reader that differ by letters taken besides. Behind an optional parenthesis such a
letter changes no width that is of use: a width that may vary varies with a letter more. The states
agree in all that decides what is read next, and where no letter was taken, in the trees. -/
namespace BuildLog.Pattern

namespace Width

/-- Not the same number of characters whenever it matches, or more than can be counted. -/
def IsLoose (w : Width) : Prop := w.least < w.most ∨ widthLimit ≤ w.least

/-- Widths that are the same to a look behind. -/
structure Alike (exact : Prop) (v w : Width) : Prop where
  first : v.least ≤ v.most
  second : w.least ≤ w.most
  same : v = w ∨ ¬exact ∧ v.IsLoose ∧ w.IsLoose

variable {exact : Prop} {a b v w : Width}

theorem Alike.refl (sound : w.least ≤ w.most) : Alike exact w w := ⟨sound, sound, .inl rfl⟩

theorem Alike.eq (alike : Alike exact v w) (exactly : exact) : v = w := by
  rcases alike.same with same | ⟨inexact, -⟩
  · exact same
  · exact absurd exactly inexact

theorem capped_eq (least most : Nat) :
    capped least most = ⟨min least widthLimit, min most widthLimit⟩ := rfl

theorem capped_le {least most : Nat} (sound : least ≤ most) :
    (capped least most).least ≤ (capped least most).most := by
  simp only [capped_eq]
  omega

theorem capped_isLoose {least most : Nat} (loose : least < most ∨ widthLimit ≤ least) :
    (capped least most).IsLoose := by
  simp only [IsLoose, capped_eq]
  omega

theorem add_comm (a b : Width) : a.add b = b.add a := by
  rw [add, add, Nat.add_comm a.least, Nat.add_comm a.most]

theorem add_assoc (a b c : Width) : (a.add b).add c = a.add (b.add c) := by
  simp only [add, capped_eq, mk.injEq]
  omega

theorem IsLoose.add (loose : v.IsLoose) (sound : a.least ≤ a.most) : (v.add a).IsLoose := by
  refine capped_isLoose ?_
  unfold IsLoose at loose
  omega

theorem Alike.add (first : Alike exact v w) (second : Alike exact a b) :
    Alike exact (v.add a) (w.add b) := by
  refine ⟨capped_le (Nat.add_le_add first.first second.first),
    capped_le (Nat.add_le_add first.second second.second), ?_⟩
  rcases first.same with rfl | ⟨inexact, loose, loose'⟩
  · rcases second.same with rfl | ⟨inexact, loose, loose'⟩
    · exact .inl rfl
    · rw [add_comm v, add_comm v]
      exact .inr ⟨inexact, loose.add first.first, loose'.add first.second⟩
  · exact .inr ⟨inexact, loose.add second.first, loose'.add second.second⟩

theorem IsLoose.join (loose : v.IsLoose) (sound : v.least ≤ v.most) (a : Width) :
    (v.join a).IsLoose := by
  change min v.least a.least < max v.most a.most ∨ widthLimit ≤ min v.least a.least
  unfold IsLoose at loose
  omega

theorem join_comm (a b : Width) : a.join b = b.join a := by
  change (⟨min a.least b.least, max a.most b.most⟩ : Width) =
    ⟨min b.least a.least, max b.most a.most⟩
  rw [Nat.min_comm, Nat.max_comm]

theorem join_le (sound : v.least ≤ v.most) (a : Width) :
    (v.join a).least ≤ (v.join a).most := by
  change min v.least a.least ≤ max v.most a.most
  omega

theorem Alike.join (first : Alike exact v w) (second : Alike exact a b) :
    Alike exact (v.join a) (w.join b) := by
  refine ⟨join_le first.first a, join_le first.second b, ?_⟩
  rcases first.same with rfl | ⟨inexact, loose, loose'⟩
  · rcases second.same with rfl | ⟨inexact, loose, loose'⟩
    · exact .inl rfl
    · rw [join_comm v, join_comm v]
      exact .inr ⟨inexact, loose.join second.first v, loose'.join second.second v⟩
  · exact .inr ⟨inexact, loose.join first.first a, loose'.join first.second b⟩

def mostOf (w : Width) : Option Nat → Nat
  | some n => w.most * n
  | none => if w.most == 0 then 0 else widthLimit

theorem times_eq (w : Width) (least : Nat) (most : Option Nat) :
    w.times least most = capped (w.least * least) (w.mostOf most) := by
  cases most <;> rfl

theorem widthLimit_pos : 0 < widthLimit := Nat.pow_pos (by decide)

theorem times_le (sound : w.least ≤ w.most) {least : Nat} {most : Option Nat}
    (ordered : ∀ n ∈ most, least ≤ n) : (w.times least most).least ≤ (w.times least most).most := by
  rw [times_eq]
  cases most with
  | some n => exact capped_le (Nat.mul_le_mul sound (ordered n rfl))
  | none =>
    rw [mostOf]
    split
    next empty =>
      have least : w.least = 0 := Nat.le_zero.mp (beq_iff_eq.mp empty ▸ sound)
      rw [least, Nat.zero_mul]
      exact capped_le (Nat.le_refl 0)
    · simp only [capped_eq, Nat.min_self]
      exact Nat.min_le_right _ _

/-- Repeated, a loose width is loose, except if it is not to match at all. -/
theorem IsLoose.times (loose : w.IsLoose) (sound : w.least ≤ w.most) {least : Nat}
    {most : Option Nat} (ordered : ∀ n ∈ most, least ≤ n) (possible : most ≠ some 0) :
    (w.times least most).IsLoose := by
  have positive : 0 < w.most := by
    have := widthLimit_pos
    unfold IsLoose at loose
    omega
  rw [times_eq]
  apply capped_isLoose
  cases most with
  | none =>
    rw [mostOf, if_neg (by simpa using Nat.ne_of_gt positive)]
    omega
  | some n =>
    have ordered := ordered n rfl
    have repeated : 0 < n := Nat.pos_of_ne_zero fun zero => possible (zero ▸ rfl)
    change w.least * least < w.most * n ∨ _
    rcases Nat.eq_zero_or_pos least with zero | once
    · rw [zero, Nat.mul_zero]
      exact .inl (Nat.mul_pos positive repeated)
    rcases loose with varying | far
    · left
      calc w.least * least < w.most * least := Nat.mul_lt_mul_of_pos_right varying once
        _ ≤ w.most * n := Nat.mul_le_mul_left _ ordered
    · exact .inr (Nat.le_trans far (Nat.le_mul_of_pos_right _ once))

theorem Alike.times (alike : Alike exact v w) {least : Nat} {most : Option Nat}
    (ordered : ∀ n ∈ most, least ≤ n) : Alike exact (v.times least most) (w.times least most) := by
  refine ⟨times_le alike.first ordered, times_le alike.second ordered, ?_⟩
  rcases alike.same with rfl | ⟨inexact, loose, loose'⟩
  · exact .inl rfl
  by_cases never : most = some 0
  · subst never
    left
    have least : least = 0 := Nat.le_zero.mp (ordered 0 rfl)
    simp [times_eq, mostOf, least]
  · exact .inr ⟨inexact, loose.times alike.first ordered never,
      loose'.times alike.second ordered never⟩

/-- A loose width is a fault in a look behind. -/
theorem IsLoose.lengthFault? (loose : w.IsLoose) : Pattern.lengthFault? w ≠ none := by
  have far : greatestBehind < widthLimit := by decide
  unfold Pattern.lengthFault?
  split
  · nofun
  next near =>
    split
    · nofun
    next fixed =>
      simp only [bne_iff_ne, ne_eq, not_not] at fixed
      unfold IsLoose at loose
      omega

end Width

structure Piece.Alike (exact : Prop) (p q : Piece) : Prop where
  role : p.role = q.role
  width : p.width.Alike exact q.width
  node : exact → p.node = q.node

variable {exact : Prop}

theorem Piece.Alike.refl {p : Piece} (sound : p.width.least ≤ p.width.most) :
    p.Alike exact p :=
  ⟨rfl, .refl sound, fun _ => rfl⟩

theorem Piece.Alike.eq {p q : Piece} (alike : p.Alike exact q) (exactly : exact) : p = q := by
  rcases p with ⟨node, width, role⟩
  rcases q with ⟨node', width', role'⟩
  obtain ⟨rfl, width, node⟩ := alike
  obtain rfl := node exactly
  obtain rfl := width.eq exactly
  rfl

namespace Row

/-- Rows with alike pieces at their ends, and the same to a look behind before them. -/
inductive Alike (exact : Prop) : Row → Row → Prop
  | nil : Alike exact [] []
  | cons {p q : Piece} {r s : Row} (piece : p.Alike exact q)
    (width : (Row.width r).Alike exact (Row.width s)) (same : exact → r = s) :
    Alike exact (p :: r) (q :: s)

theorem width_cons (p : Piece) (r : Row) : Row.width (p :: r) = p.width.add (Row.width r) := by
  have gathered (a b : Width) (r : Row) :
      r.foldl (fun w p => w.add p.width) (a.add b) =
        a.add (r.foldl (fun w p => w.add p.width) b) := by
    induction r generalizing b with
    | nil => rfl
    | cons q r ih => rw [List.foldl_cons, List.foldl_cons, Width.add_assoc, ih]
  rw [Row.width, List.foldl_cons, Width.add_comm, gathered]
  rfl

theorem Alike.width {r s : Row} (alike : Alike exact r s) :
    (Row.width r).Alike exact (Row.width s) := by
  cases alike with
  | nil => exact .refl (Nat.le_refl 0)
  | cons piece width same =>
    rw [width_cons, width_cons]
    exact piece.width.add width

theorem Alike.isLoose {p : Piece} {r s : Row} (alike : Alike exact (p :: r) s)
    (loose : p.width.IsLoose) :
    (Row.width (p :: r)).IsLoose ∧ (Row.width s).IsLoose := by
  have first : (Row.width (p :: r)).IsLoose := by
    cases alike with
    | cons _ width _ =>
      rw [width_cons]
      exact loose.add width.first
  refine ⟨first, ?_⟩
  rcases alike.width.same with same | ⟨-, -, second⟩
  · exact same ▸ first
  · exact second

theorem Alike.eq {r s : Row} (alike : Alike exact r s) (exactly : exact) : r = s := by
  cases alike with
  | nil => rfl
  | cons piece width same => rw [piece.eq exactly, same exactly]

theorem Alike.push {r s : Row} (alike : Alike exact r s) {p q : Piece} (piece : p.Alike exact q) :
    Alike exact (p :: r) (q :: s) :=
  .cons piece alike.width alike.eq

end Row

/-- Kinds that differ at most in a fault that is told in any case. -/
inductive GroupKind.Alike : GroupKind → GroupKind → Prop
  | same (k : GroupKind) : Alike k k
  | behind (negated : Bool) (outer : Option Nat) (deferred deferred' : Option Reason) :
    Alike (.behind negated outer deferred) (.behind negated outer deferred')

namespace Level

structure Alike (exact : Prop) (l m : Level) : Prop where
  kind : l.kind.Alike m.kind
  mode : l.mode = m.mode
  branches : List.Forall₂ (Row.Alike exact) l.branches m.branches
  row : l.row.Alike exact m.row

variable {l m : Level}

theorem Alike.rows (alike : l.Alike exact m) :
    List.Forall₂ (Row.Alike exact) l.rows m.rows :=
  List.rel_reverse (.cons alike.row alike.branches)

theorem Alike.rows_eq (alike : l.Alike exact m) (exactly : exact) : l.rows = m.rows :=
  List.forall₂_eq_eq_eq ▸ alike.rows.imp fun _ _ row => row.eq exactly

theorem join_rows {v w : Width} (first : v.Alike exact w) {rows rows' : List Row}
    (alike : List.Forall₂ (Row.Alike exact) rows rows') :
    ((rows.map Row.width).foldl .join v).Alike exact ((rows'.map Row.width).foldl .join w) := by
  induction alike generalizing v w with
  | nil => exact first
  | cons row _ ih => exact ih (first.join row.width)

theorem Alike.width (alike : l.Alike exact m) : l.width.Alike exact m.width := by
  have rows := alike.rows
  rw [Level.width, Level.width]
  generalize l.rows = rows, m.rows = rows' at *
  cases rows with
  | nil => exact .refl (Nat.le_refl 0)
  | cons row rest => exact join_rows row.width rest

theorem Alike.node (alike : l.Alike exact m) (exactly : exact) : l.node = m.node := by
  rw [Level.node, Level.node, alike.rows_eq exactly]

def conditionalPiece (index : Nat) : List Row → Piece
  | [yes, no] => ⟨.ifGroup index yes.node no.node, yes.width.join no.width, .item⟩
  | rows => ⟨.ifGroup index (rows.headD []).node .empty, (rows.headD []).width.join .zero, .item⟩

theorem conditionalPiece_alike (index : Nat) {rows rows' : List Row}
    (alike : List.Forall₂ (Row.Alike exact) rows rows') :
    (conditionalPiece index rows).Alike exact (conditionalPiece index rows') := by
  have zero : Width.zero.Alike exact Width.zero := .refl (Nat.le_refl 0)
  have single {yes yes' : Row} (first : yes.Alike exact yes') :
      (⟨.ifGroup index yes.node .empty, yes.width.join .zero, .item⟩ : Piece).Alike exact
        ⟨.ifGroup index yes'.node .empty, yes'.width.join .zero, .item⟩ :=
    ⟨rfl, first.width.join zero, fun exactly => by rw [first.eq exactly]⟩
  rcases alike with _ | ⟨first, _ | ⟨second, _ | ⟨third, rest⟩⟩⟩
  · exact .refl (Nat.le_refl 0)
  · exact single first
  · exact ⟨rfl, first.width.join second.width,
      fun exactly => by rw [first.eq exactly, second.eq exactly]⟩
  · exact single first

theorem Alike.piece (alike : l.Alike exact m) : l.piece.Alike exact m.piece := by
  have zero : Width.zero.Alike exact Width.zero := .refl (Nat.le_refl 0)
  have node (wrap : Node → Node) (exactly : exact) : wrap l.node = wrap m.node := by
    rw [alike.node exactly]
  have item (wrap : Node → Node) :
      Piece.Alike exact ⟨wrap l.node, l.width, .item⟩ ⟨wrap m.node, m.width, .item⟩ :=
    ⟨rfl, alike.width, node wrap⟩
  have behind (negated : Bool) : Piece.Alike exact
      ⟨.behind negated l.width.least l.node, .zero, .item⟩
      ⟨.behind negated m.width.least m.node, .zero, .item⟩ :=
    ⟨rfl, zero, fun exactly => by rw [alike.width.eq exactly, alike.node exactly]⟩
  have kinds := alike.kind
  unfold Level.piece
  generalize l.kind = kind, m.kind = kind' at kinds
  cases kinds with
  | behind negated outer deferred deferred' => exact behind negated
  | same =>
    cases kind with
    | whole => exact item id
    | plain => exact item id
    | capture index => exact item (.group index)
    | atomic => exact item .atomic
    | ahead negated => exact ⟨rfl, zero, node (.ahead negated)⟩
    | behind negated => exact behind negated
    | conditional index => exact conditionalPiece_alike index alike.rows

end Level

/-- States with which the same is read next, and the same trees if `exact`. -/
structure State.Alike (exact : Prop) (st st' : State) : Prop where
  level : st.level.Alike exact st'.level
  outer : List.Forall₂ (Level.Alike exact) st.outer st'.outer
  size : st.widths.size = st'.widths.size
  widths : ∀ i : Nat,
    Option.Rel (Width.Alike exact) (st.widths[i]?).join (st'.widths[i]?).join
  names : st.names = st'.names
  behind : st.behind = st'.behind
  conditions : st.conditions.map Prod.fst = st'.conditions.map Prod.fst
  globals : st.globals = st'.globals
  deferred : st.deferred = none → st'.deferred = none

namespace State.Alike

variable {st st' : State}

theorem start : State.start.Alike exact State.start where
  level := ⟨.same _, rfl, .nil, .nil⟩
  outer := .nil
  size := rfl
  widths := fun _ => .none
  names := rfl
  behind := rfl
  conditions := rfl
  globals := rfl
  deferred := id

theorem mode (alike : st.Alike exact st') : st.mode = st'.mode := alike.level.mode

theorem withRow (alike : st.Alike exact st') {r s : Row} (row : r.Alike exact s) :
    State.Alike exact { st with level := { st.level with row := r } }
      { st' with level := { st'.level with row := s } } :=
  { alike with level := { alike.level with row := row } }

theorem push (alike : st.Alike exact st') {p q : Piece} (piece : p.Alike exact q) :
    (st.push p).Alike exact (st'.push q) :=
  alike.withRow (alike.level.row.push piece)

theorem pushClass (alike : st.Alike exact st') {items items' : List Item} (negated : Bool)
    (same : exact → items = items') :
    (st.push (st.classPiece items negated)).Alike exact
      (st'.push (st'.classPiece items' negated)) := by
  refine alike.push ⟨rfl, .refl (Nat.le_refl 1), fun exactly => ?_⟩
  simp only [classPiece, alike.mode, same exactly]

theorem pushCode (alike : st.Alike exact st') (n : Nat) :
    (st.pushCode n).Alike exact (st'.pushCode n) :=
  alike.pushClass false fun _ => rfl

theorem pushAnchor (alike : st.Alike exact st') (a : Anchor) :
    (st.pushAnchor a).Alike exact (st'.pushAnchor a) :=
  alike.push (.refl (Nat.le_refl 0))

/-- Behind what may match nothing, a character more makes no row of fixed length. -/
theorem pushBetween (alike : st.Alike exact st') (inexact : ¬exact) {p : Piece} {r : Row}
    (last : st.level.row = p :: r) (loose : p.width.IsLoose) (n m : Nat) :
    (st.pushCode n).Alike exact ((st'.pushCode m).pushCode n) := by
  let letter := st'.classPiece [.one m] false
  have single : letter.width.Alike exact letter.width := .refl (Nat.le_refl 1)
  have rows := alike.level.row.width
  have sound := (single.add rows).second
  have row := alike.level.row
  rw [last] at row
  obtain ⟨first, second⟩ := row.isLoose loose
  have later := second.add single.first
  rw [Width.add_comm, ← Row.width_cons] at later
  rw [← Row.width_cons] at sound
  have width : (Row.width st.level.row).Alike exact (Row.width (letter :: st'.level.row)) :=
    ⟨rows.first, sound, .inr ⟨inexact, last ▸ first, later⟩⟩
  have piece : (st.classPiece [.one n] false).Alike exact (st'.classPiece [.one n] false) :=
    ⟨rfl, .refl (Nat.le_refl 1), fun exactly => absurd exactly inexact⟩
  exact alike.withRow (.cons piece width fun exactly => absurd exactly inexact)

theorem defer (alike : st.Alike exact st') (reason reason' : Reason) :
    (st.defer reason).Alike exact (st'.defer reason') := by
  refine { alike with deferred := ?_ }
  intro none
  simp [State.defer] at none

theorem closed (alike : st.Alike exact st') (index : Nat) :
    Option.Rel (Width.Alike exact) (st.closed? index) (st'.closed? index) :=
  alike.widths (index - 1)

/-- A group is opened. -/
theorem opened (alike : st.Alike exact st') {kind kind' : GroupKind} (kinds : kind.Alike kind')
    (opening opening' : Nat) (mode : Mode) :
    State.Alike exact
      { st with
        level := { kind := kind, opening := opening, mode := mode, branches := [], row := [] }
        outer := st.level :: st.outer }
      { st' with
        level := { kind := kind', opening := opening', mode := mode, branches := [], row := [] }
        outer := st'.level :: st'.outer } :=
  { alike with
    level := ⟨kinds, rfl, .nil, .nil⟩
    outer := .cons alike.level alike.outer }

/-- A group gets its number. -/
theorem numbered (alike : st.Alike exact st') (names : List (String × Nat)) :
    State.Alike exact { st with widths := st.widths.push none, names := names }
      { st' with widths := st'.widths.push none, names := names } := by
  refine { alike with size := ?_, widths := fun i => ?_, names := rfl }
  · simp [alike.size]
  · have := alike.widths i
    simp only [Array.getElem?_push, alike.size]
    split
    · exact .none
    · exact this

theorem branched (alike : st.Alike exact st') :
    State.Alike exact
      { st with
        level := { st.level with branches := st.level.row :: st.level.branches, row := [] } }
      { st' with
        level := { st'.level with branches := st'.level.row :: st'.level.branches, row := [] } } :=
  { alike with
    level := { alike.level with
      branches := .cons alike.level.row alike.level.branches
      row := .nil } }

/-- The width of a group gets known. -/
theorem complete (alike : st.Alike exact st') {v w : Width} (width : v.Alike exact w)
    (index : Nat) :
    State.Alike exact { st with widths := st.widths.setIfInBounds (index - 1) (some v) }
      { st' with widths := st'.widths.setIfInBounds (index - 1) (some w) } := by
  refine { alike with size := ?_, widths := fun i => ?_ }
  · simp [alike.size]
  · have before := alike.widths i
    simp only [Array.getElem?_setIfInBounds, alike.size]
    split
    · split
      · exact .some width
      · exact .none
    · exact before

/-- A look behind is complete. -/
theorem fixed (alike : st.Alike exact st') {v w : Width} (width : v.Alike exact w)
    (behind : Option Nat) (deferred deferred' : Option Reason) :
    State.Alike exact
      (match lengthFault? v with
        | some reason => { st with behind := behind, deferred := deferred <|> some reason }
        | none => { st with behind := behind })
      (match lengthFault? w with
        | some reason => { st' with behind := behind, deferred := deferred' <|> some reason }
        | none => { st' with behind := behind }) := by
  have reset : State.Alike exact { st with behind := behind } { st' with behind := behind } :=
    { alike with behind := rfl }
  have told (reason : Reason) (d d' : Option Reason) : State.Alike exact
      { st with behind := behind, deferred := d <|> some reason }
      { st' with behind := behind, deferred := d' } := by
    refine { reset with deferred := ?_ }
    intro none
    cases d <;> cases none
  cases fault : lengthFault? v with
  | some reason =>
    cases lengthFault? w with
    | some _ => exact told reason deferred _
    | none => exact told reason deferred st'.deferred
  | none =>
    rcases width.same with rfl | ⟨-, loose, -⟩
    · rw [fault]
      exact reset
    · exact absurd fault loose.lengthFault?

/-- A group is closed. A look behind of no fixed length is a fault, deferred in both. -/
theorem close (alike : st.Alike exact st') {around around' : Level} {outer outer' : List Level}
    (level : around.Alike exact around') (rest : List.Forall₂ (Level.Alike exact) outer outer') :
    (st.close around outer).Alike exact (st'.close around' outer') := by
  have moved : State.Alike exact { st with level := around, outer := outer }
      { st' with level := around', outer := outer' } :=
    { alike with level := level, outer := rest }
  have kinds := alike.level.kind
  unfold State.close
  dsimp only
  refine push ?_ alike.level.piece
  generalize st.level.kind = kind, st'.level.kind = kind' at kinds
  cases kinds with
  | behind negated behind deferred deferred' =>
    exact moved.fixed alike.level.width behind deferred deferred'
  | same =>
    cases kind with
    | capture index => exact moved.complete alike.level.width index
    | behind negated behind deferred =>
      exact moved.fixed alike.level.width behind deferred deferred
    | whole | plain | atomic | ahead | conditional => exact moved

end State.Alike

end BuildLog.Pattern
