import BuildLog.Proofs.Pattern.Quantifiers
import BuildLog.Proofs.Text.Blank

/-! Groups opened side by side. A name is the same for both, since one with a site in it holds a
question mark and so is no name at all. -/
namespace BuildLog.Pattern

variable {α β : Type} {exact : Prop} {c : Cursor} {st st' : State}

theorem isIdentifier_noMark {cs : List Char} (identifier : Text.isIdentifier cs = true) :
    '?' ∉ cs := by
  have start : Text.startsIdentifier '?' = false := by decide +kernel
  have inside : Text.continuesIdentifier '?' = false := by decide +kernel
  cases cs with
  | nil => exact List.not_mem_nil
  | cons c rest =>
    obtain ⟨first, later⟩ := Bool.and_eq_true_iff.mp identifier
    intro member
    rcases List.mem_cons.mp member with rfl | member
    · rw [start] at first
      cases first
    · have := List.all_eq_true.mp later _ member
      rw [inside] at this
      cases this

theorem ungrouped?_noMark {cs digits : List Char}
    (ungrouped : Decimal.ungrouped? cs = some digits) : '?' ∉ cs := by
  have noDigit : Text.isDecimal '?' = false := by decide +kernel
  have other {c : Char} (digit : Text.isDecimal c = true) : '?' ≠ c := by
    rintro rfl
    rw [noDigit] at digit
    cases digit
  fun_induction Decimal.ungrouped? cs generalizing digits with
  | case1 => cases ungrouped
  | case2 c digit => simp [other digit]
  | case3 => cases ungrouped
  | case4 c rest digit ih =>
    obtain ⟨later, given, -⟩ := Option.map_eq_some_iff.mp ungrouped
    simp [other digit, ih given]
  | case5 => cases ungrouped
  | case6 c rest _ _ digit ih =>
    obtain ⟨later, given, -⟩ := Option.map_eq_some_iff.mp ungrouped
    simp [other digit, ih given]
  | case7 => cases ungrouped

theorem wholeInt?_noMark {cs : List Char} {n : Int} (whole : Decimal.wholeInt? cs = some n) :
    '?' ∉ cs := by
  intro member
  have solid : Text.isBlank '?' = false := by decide +kernel
  have inside := Text.mem_trim solid member
  unfold Decimal.wholeInt? at whole
  obtain ⟨digits, ungrouped, -⟩ := Option.bind_eq_some_iff.mp whole
  refine ungrouped?_noMark ungrouped ?_
  generalize Text.trim cs = cs at inside
  change '?' ∈ (Decimal.splitSign cs).2
  unfold Decimal.splitSign
  split
  · simpa using inside
  · simpa using inside
  · exact inside

namespace Follows

theorem checkGroupName {name name' : String} (kept : '?' ∉ name.toList → name' = name) :
    Follows c (checkGroupName name) (checkGroupName name') fun _ _ d => name' = name ∧ d = c := by
  unfold Pattern.checkGroupName
  split
  next identifier =>
    rw [kept (isIdentifier_noMark identifier), if_pos identifier]
    exact of_pure ⟨rfl, rfl⟩
  · exact of_stop _ _

/-- Nothing is taken, and what was taken before is neither a question mark nor an opening
parenthesis. -/
theorem settled {x y : TokenScan State}
    (follows : Follows c x y fun st st' d => st.Alike exact st' ∧ d = c) {ch : Char}
    (last : c.before.head? = some (.char ch)) (mark : ch ≠ '?') (nested : ch ≠ '(') :
    Follows c x y (Settled exact) := by
  refine follows.mono ?_
  rintro _ _ _ - ⟨alike, rfl⟩
  exact ⟨alike, Cursor.isSettled_of_char last mark nested⟩

theorem openGroup [Host] (alike : st.Alike exact st') {kind kind' : GroupKind}
    (kinds : kind.Alike kind') (opening opening' : Nat) {mode mode' : Mode} (modes : mode = mode') :
    Follows c (st.openGroup kind opening mode) (st'.openGroup kind' opening' mode')
      fun st st' d => st.Alike exact st' ∧ d = c := by
  unfold State.openGroup
  rw [← alike.outer.length_eq, ← modes]
  split
  · exact of_stopWith _
  · exact of_pure ⟨alike.opened kinds _ _ mode, rfl⟩

theorem openCapture [Host] (alike : st.Alike exact st') (name : Option String)
    (opening opening' : Nat) :
    Follows c (st.openCapture name opening) (st'.openCapture name opening')
      fun st st' d => st.Alike exact st' ∧ d = c := by
  have opened (names : List (String × Nat)) :=
    openGroup (c := c) (alike.numbered names) (.same (.capture (st.widths.size + 1)))
      opening opening' alike.mode
  unfold State.openCapture
  rw [← alike.names, ← alike.size]
  dsimp only
  split
  · exact of_pure_bind (opened _)
  split
  · exact of_stop_bind _ _ _
  · exact of_pure_bind (opened _)

theorem namedGroup [Host] (alike : st.Alike exact st') (opening opening' : Nat)
    (plain : c.isSite = false) :
    Follows c (st.namedGroup opening) (st'.namedGroup opening') (Settled exact) := by
  unfold State.namedGroup
  refine (skip fun site => by rw [plain] at site; cases site).bind ?_
  rintro _ _ d - (⟨rfl, rfl, -, behind⟩ | ⟨rfl, rfl, rfl, -⟩)
  · have plain : d.isSite = false := by
      rw [behind]
      exact Cursor.isSite_past (by decide) _ _
    refine (textUntil _ (by decide) (by decide) plain).bind ?_
    rintro name name' e - ⟨kept, -, last⟩
    refine (checkGroupName kept).bind ?_
    rintro _ _ _ - ⟨rfl, rfl⟩
    exact (openCapture alike _ _ _).settled last (by decide) (by decide)
  refine (skip fun site => by rw [plain] at site; cases site).bind ?_
  rintro _ _ d - (⟨rfl, rfl, -, behind⟩ | ⟨rfl, rfl, rfl, -⟩)
  · have plain : d.isSite = false := by
      rw [behind]
      exact Cursor.isSite_past (by decide) _ _
    refine (textUntil _ (by decide) (by decide) plain).bind ?_
    rintro name name' e - ⟨kept, -, last⟩
    refine (checkGroupName kept).bind ?_
    rintro _ _ _ - ⟨rfl, rfl⟩
    rw [← alike.names]
    split
    · exact of_stop _ _
    · exact (reference alike _ _ _).settled last (by decide) (by decide)
  refine (next plain).bind ?_
  rintro _ _ e - (⟨rfl, rfl, -⟩ | ⟨t, rfl, rfl, -⟩)
  · exact of_stop _ _
  · exact of_stop _ _

theorem openBehind [Host] (alike : st.Alike exact st') (negated : Bool) (opening opening' : Nat) :
    Follows c (st.openBehind negated opening) (st'.openBehind negated opening')
      fun st st' d => st.Alike exact st' ∧ d = c := by
  unfold State.openBehind
  rw [← alike.behind, ← alike.size]
  have inside : State.Alike exact { st with behind := st.behind <|> some st.widths.size }
      { st' with behind := st.behind <|> some st.widths.size } :=
    { alike with behind := rfl }
  exact openGroup inside (.behind _ _ _ _) opening opening' alike.mode

theorem conditionIndex (alike : st.Alike exact st') {name name' : String}
    (kept : '?' ∉ name.toList → name' = name) :
    Follows c (st.conditionIndex name) (st'.conditionIndex name')
      fun x y d => x.1.Alike exact y.1 ∧ x.2 = y.2 ∧ d = c := by
  unfold State.conditionIndex
  dsimp only
  split
  next identifier =>
    rw [kept (isIdentifier_noMark identifier), if_pos identifier, ← alike.names]
    split
    · exact of_stop _ _
    · exact of_pure ⟨alike, rfl, rfl⟩
  next noName =>
    split
    next index whole =>
      rw [kept (wholeInt?_noMark whole), if_neg noName, whole]
      dsimp only
      split
      · exact of_stop _ _
      split
      · exact of_stop _ _
      refine rest.bind ?_
      rintro _ _ _ - ⟨rfl, -, -⟩
      exact of_pure ⟨{ alike with conditions := by simp [alike.conditions] }, rfl, rfl⟩
    · exact of_stop _ _

theorem conditional [Host] (alike : st.Alike exact st') (opening opening' : Nat)
    (plain : c.isSite = false) :
    Follows c (st.conditional opening) (st'.conditional opening') (Settled exact) := by
  unfold State.conditional
  refine (textUntil _ (by decide) (by decide) plain).bind ?_
  rintro name name' d - ⟨kept, -, last⟩
  refine (conditionIndex alike kept).bind ?_
  rintro ⟨st, index⟩ ⟨st', _⟩ _ - ⟨alike, rfl, rfl⟩
  refine (checkBehind alike index).bind ?_
  rintro _ _ _ - rfl
  exact (openGroup alike (.same _) _ _ alike.mode).settled last (by decide) (by decide)

theorem turnOn (flags : List Char) (ch : Char) :
    Follows c (turnOn flags ch) (turnOn flags ch) fun a b d => a = b ∧ d = c := by
  unfold Pattern.turnOn
  split
  · exact of_stop _ _
  split
  · exact of_stop _ _
  · exact of_pure ⟨rfl, rfl⟩

theorem turnOff (flags : List Char) (ch : Char) :
    Follows c (turnOff flags ch) (turnOff flags ch) fun a b d => a = b ∧ d = c := by
  unfold Pattern.turnOff
  split
  · exact of_stop _ _
  · exact of_pure ⟨rfl, rfl⟩

theorem isSite_behind_flag {t : Token} {ch : Char} (flag : isFlag t = some ch) (rest : List Token) :
    (c.past t rest).isSite = false := by
  refine Cursor.isSite_past ?_ c rest
  rintro rfl
  cases flag

def SameFlags (a b : List Char) (d : Cursor) : Prop := a = b ∧ d.isSite = false

/-- Flags and the sign that ends them. -/
theorem flagsOn (flags : List Char) (plain : c.isSite = false) :
    Follows c (flagsOn flags) (flagsOn flags) fun a b d =>
      a = b ∧ (a.2 = ')' ∨ a.2 = '-' ∨ a.2 = ':') ∧ d.before.head? = some (.char a.2) := by
  have calm : ∀ a b d, SameFlags a b d → d.isSite = false := fun _ _ _ same => same.2
  refine calmLoop calm (fun _ _ _ _ => of_stop _ _) ?_ ⟨rfl, plain⟩
  rintro flags _ d t rest ⟨rfl, -⟩
  split
  next sign => exact of_pure ⟨rfl, .inl rfl, by rw [beq_iff_eq.mp sign]; rfl⟩
  split
  next sign => exact of_pure ⟨rfl, .inr (.inl rfl), by rw [beq_iff_eq.mp sign]; rfl⟩
  split
  next sign => exact of_pure ⟨rfl, .inr (.inr rfl), by rw [beq_iff_eq.mp sign]; rfl⟩
  split
  next ch flag =>
    refine (turnOn flags ch).bind ?_
    rintro _ _ _ - ⟨rfl, rfl⟩
    exact of_pure ⟨rfl, isSite_behind_flag flag rest⟩
  · exact of_stop _ _

/-- Flags to turn off, up to the colon. -/
theorem flagsOff (plain : c.isSite = false) :
    Follows c flagsOff flagsOff fun a b d => a = b ∧ d.before.head? = some (.char ':') := by
  have calm : ∀ a b d, SameFlags a b d → d.isSite = false := fun _ _ _ same => same.2
  unfold Pattern.flagsOff
  refine (next plain).bind ?_
  rintro _ _ d - (⟨rfl, rfl, -⟩ | ⟨t, rfl, rfl, -, behind⟩)
  · exact of_stop _ _
  dsimp only
  split
  · exact of_stop _ _
  next ch flag =>
  refine (turnOff [] ch).bind ?_
  rintro flags _ _ - ⟨rfl, rfl⟩
  refine calmLoop calm (fun _ _ _ _ => of_stop _ _) ?_ ⟨rfl, behind ▸ isSite_behind_flag flag _⟩
  rintro flags _ d t rest ⟨rfl, -⟩
  split
  next sign => exact of_pure ⟨rfl, by rw [beq_iff_eq.mp sign]; rfl⟩
  split
  next ch flag =>
    refine (turnOff flags ch).bind ?_
    rintro _ _ _ - ⟨rfl, rfl⟩
    exact of_pure ⟨rfl, isSite_behind_flag flag rest⟩
  · exact of_stop _ _

theorem isEmpty_of_forall₂ {R : α → β → Prop} {r : List α} {s : List β}
    (alike : List.Forall₂ R r s) : s.isEmpty = r.isEmpty := by
  cases alike <;> rfl

theorem globalFlags (alike : st.Alike exact st') (flags : List Char) (opening opening' : Nat) :
    Follows c (st.globalFlags flags opening) (st'.globalFlags flags opening')
      fun st st' d => st.Alike exact st' ∧ d = c := by
  have row : st'.level.row.isEmpty = st.level.row.isEmpty := by
    have row := alike.level.row
    generalize st.level.row = r, st'.level.row = s at row
    cases row <;> rfl
  unfold State.globalFlags
  rw [isEmpty_of_forall₂ alike.outer, isEmpty_of_forall₂ alike.level.branches, row,
    ← alike.mode, ← alike.globals]
  split
  · exact of_pure ⟨{ alike with level := { alike.level with mode := rfl }, globals := rfl }, rfl⟩
  · exact of_stopAt _ _

/-- Flags for the inside of a group, those to turn off behind a dash. -/
theorem scopedFlags [Host] (alike : st.Alike exact st') (on : List Char) (sign : Char)
    (opening opening' : Nat) (plain : c.isSite = false)
    (colon : sign ≠ '-' → c.before.head? = some (.char ':')) :
    Follows c
      (do
        if on.contains 't' then stop .turnOnGlobalFlag 1
        let off ← if sign == '-' then Pattern.flagsOff else pure []
        if off.contains 't' then stop .turnOffGlobalFlag 1
        if on.any off.contains then stop .flagOnAndOff 1
        st.openGroup .plain opening (st.mode.with on off))
      (do
        if on.contains 't' then stop .turnOnGlobalFlag 1
        let off ← if sign == '-' then Pattern.flagsOff else pure []
        if off.contains 't' then stop .turnOffGlobalFlag 1
        if on.any off.contains then stop .flagOnAndOff 1
        st'.openGroup .plain opening' (st'.mode.with on off))
      (Settled exact) := by
  have ended (off : List Char) (d : Cursor) (last : d.before.head? = some (.char ':')) :
      Follows d
        (do
          if off.contains 't' then stop .turnOffGlobalFlag 1
          if on.any off.contains then stop .flagOnAndOff 1
          st.openGroup .plain opening (st.mode.with on off))
        (do
          if off.contains 't' then stop .turnOffGlobalFlag 1
          if on.any off.contains then stop .flagOnAndOff 1
          st'.openGroup .plain opening' (st'.mode.with on off))
        (Settled exact) := by
    dsimp only
    split
    · exact of_stop_bind _ _ _
    split
    · exact of_stop_bind _ _ _
    exact (openGroup alike (.same _) _ _ (by rw [alike.mode])).settled last (by decide) (by decide)
  dsimp only
  split
  · exact of_stop_bind _ _ _
  split
  next =>
    refine (flagsOff plain).bind ?_
    rintro off _ d - ⟨rfl, last⟩
    exact ended off d last
  next other =>
    exact of_pure_bind (ended [] c (colon fun dash => other (beq_iff_eq.mpr dash)))

theorem flagGroup [Host] (alike : st.Alike exact st') {first : Char} (opening opening' : Nat)
    (plain : c.isSite = false) :
    Follows c (st.flagGroup first opening) (st'.flagGroup first opening') (Settled exact) := by
  unfold State.flagGroup
  dsimp only
  split
  · exact of_pure_bind (scopedFlags alike [] '-' _ _ plain fun other => absurd rfl other)
  refine (turnOn [] first).bind ?_
  rintro flags _ _ - ⟨rfl, rfl⟩
  refine (flagsOn flags plain).bind ?_
  rintro ⟨on, sign⟩ _ d - ⟨rfl, which, last⟩
  have settled : d.IsSettled := by
    rcases which with rfl | rfl | rfl <;>
      exact Cursor.isSettled_of_char last (by simp) (by simp)
  dsimp only
  split
  next closing =>
    refine (globalFlags alike on _ _).mono ?_
    rintro _ _ _ - ⟨alike, rfl⟩
    exact ⟨alike, settled⟩
  next other =>
    refine scopedFlags alike on sign _ _ settled.not_isSite fun noDash => ?_
    rcases which with rfl | rfl | rfl
    · exact absurd rfl other
    · exact absurd rfl noDash
    · exact last

/-- A comment is passed over with all that looks like a name in it. -/
theorem skipComment (opening opening' : Nat) (plain : c.isSite = false) :
    Follows c (skipComment opening) (skipComment opening') fun _ _ d =>
      d.before.head? = some (.char ')') := by
  refine (takeWhile (by decide) (by decide) plain).bind ?_
  rintro a b d - ⟨-, -, -, ended, plain⟩
  refine (Follows.terminator ended plain).bind ?_
  rintro _ _ e - (⟨rfl, rfl⟩ | ⟨rfl, rfl, -, last⟩)
  · exact of_stopAt _ _
  · exact of_pure last

/-- A name in the second spelling opens no group. -/
theorem extension_site [Host] (st : State) (opening : Nat) {n : Char} (name : opensName n = true)
    (rest : List Token) :
    (st.extension opening).outcome (.char '<' :: .char n :: rest) =
      .error (.fault (.unknownExtension ("<" ++ (Token.char n).text)) (some (width rest + 3))
        rest.isEmpty) := by
  have equal : (Token.char n == .char '=') = false := by
    rw [beq_eq_false_iff_ne]
    rintro ⟨⟩
    cases name
  have negated : (Token.char n == .char '!') = false := by
    rw [beq_eq_false_iff_ne]
    rintro ⟨⟩
    cases name
  have next (t : Token) (s : List Token) :
      Scan.outcome (ε := Stop) Scan.next? (t :: s) = .ok (some t, s) := rfl
  rw [State.extension, Scan.outcome_bind, next]
  change Scan.outcome (Scan.next? >>= _) _ = _
  rw [Scan.outcome_bind, next]
  dsimp only
  rw [equal, negated]
  rfl

/-- What stands behind the angle of a look behind. -/
theorem lookBehind [Host] (alike : st.Alike exact st') (opening opening' : Nat)
    (plain : c.isSite = false) :
    Follows c
      (do
        match ← Scan.next? with
        | none => stop .unexpectedEnd
        | some t =>
          if t == .char '=' then st.openBehind false opening
          else if t == .char '!' then st.openBehind true opening
          else stop (.unknownExtension ("<" ++ t.text)) (t.width + 2))
      (do
        match ← Scan.next? with
        | none => stop .unexpectedEnd
        | some t =>
          if t == .char '=' then st'.openBehind false opening'
          else if t == .char '!' then st'.openBehind true opening'
          else stop (.unknownExtension ("<" ++ t.text)) (t.width + 2))
      (Settled exact) := by
  refine (next plain).bind ?_
  rintro _ _ d - (⟨rfl, rfl, -⟩ | ⟨t, rfl, rfl, -, behind⟩)
  · exact of_stop _ _
  have last : d.before.head? = some t := by
    rw [behind]
    rfl
  dsimp only
  refine ite (fun equal => ?_) fun _ => ite (fun exclaimed => ?_) fun _ => of_stop _ _
  · obtain rfl := beq_iff_eq.mp equal
    exact (openBehind alike false _ _).settled last (by decide) (by decide)
  · obtain rfl := beq_iff_eq.mp exclaimed
    exact (openBehind alike true _ _).settled last (by decide) (by decide)

/-- A group that begins with a question mark. -/
theorem extension [Host] (alike : st.Alike exact st') (opening opening' : Nat) :
    Follows c (st.extension opening) (st'.extension opening') (Settled exact) := by
  cases site : c.isSite with
  | true =>
    obtain ⟨t, older, n, rest, -, name, rfl⟩ := Cursor.exists_of_isSite site
    exact of_error (extension_site st opening name rest)
  | false =>
  unfold State.extension
  refine (next site).bind ?_
  rintro _ _ d - (⟨rfl, rfl, -⟩ | ⟨t, rfl, rfl, -, behind⟩)
  · exact of_stop _ _
  cases t with
  | escape ch => exact of_stop _ _
  | char ch =>
  have last : d.before.head? = some (.char ch) := by
    rw [behind]
    rfl
  have plain (other : ch ≠ '?') : d.isSite = false := by
    rw [behind]
    exact Cursor.isSite_past (by simpa using other) c _
  dsimp only
  refine ite (fun named => ?_) fun _ => ?_
  · obtain rfl := beq_iff_eq.mp named
    exact namedGroup alike _ _ (plain (by decide))
  refine ite (fun colon => ?_) fun _ => ?_
  · obtain rfl := beq_iff_eq.mp colon
    exact (openGroup alike (.same _) _ _ alike.mode).settled last (by decide) (by decide)
  refine ite (fun comment => ?_) fun _ => ?_
  · obtain rfl := beq_iff_eq.mp comment
    refine (skipComment _ _ (plain (by decide))).bind ?_
    rintro _ _ e - closed
    exact of_pure ⟨alike, Cursor.isSettled_of_char closed (by decide) (by decide)⟩
  refine ite (fun equal => ?_) fun _ => ?_
  · obtain rfl := beq_iff_eq.mp equal
    exact (openGroup alike (.same _) _ _ alike.mode).settled last (by decide) (by decide)
  refine ite (fun exclaimed => ?_) fun _ => ?_
  · obtain rfl := beq_iff_eq.mp exclaimed
    exact (openGroup alike (.same _) _ _ alike.mode).settled last (by decide) (by decide)
  refine ite (fun angle => ?_) fun _ => ?_
  · obtain rfl := beq_iff_eq.mp angle
    exact lookBehind alike _ _ (plain (by decide))
  refine ite (fun condition => ?_) fun _ => ?_
  · obtain rfl := beq_iff_eq.mp condition
    exact conditional alike _ _ (plain (by decide))
  refine ite (fun atomic => ?_) fun _ => ?_
  · obtain rfl := beq_iff_eq.mp atomic
    exact (openGroup alike (.same _) _ _ alike.mode).settled last (by decide) (by decide)
  refine ite (fun flags => ?_) fun _ => of_stop _ _
  refine flagGroup alike _ _ (plain ?_)
  rintro rfl
  cases flags

end Follows

end BuildLog.Pattern
