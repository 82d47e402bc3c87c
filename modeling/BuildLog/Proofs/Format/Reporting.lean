import BuildLog.Proofs.Format.Answering
import Mathlib.Data.List.Forall2

/-! What is reported of the diagnostics of a compiler. A line that names a function says where the
diagnostics after it stand, and nothing else is made of it: if it is a diagnostic itself, the log is
recognised by it, but no event tells of it. -/
namespace BuildLog

namespace Format.CompilerText

open List (Forall₂)

def functionNamed? (text : String) : Option String :=
  (inFunction.search text).map (inFunction.capture · "func")

def isDiagnostic (text : String) : Bool :=
  match diagnostic? text with
  | .ok (some _) => true
  | _ => false

/-- The function that a line names if it is no diagnostic itself. -/
def contextNamed? (text : String) : Option String :=
  if isDiagnostic text then none else functionNamed? text

def isReported (text : String) : Bool := isDiagnostic text && (functionNamed? text).isNone

/-- Each line with the function that was named last before it. -/
def inFunctions (named? : String → Option String) (function : String) (lines : List Line) :
    List (Line × String) :=
  lines.mapIdx fun i line =>
    (line, ((lines.take i).filterMap (named? ·.text)).getLast?.getD function)

/-- The event tells of the diagnostic in its line, and of the function in which it stands. -/
def Reports (e : Event) (placed : Line × String) : Prop :=
  ∃ d, diagnostic? placed.1.text = .ok (some d) ∧
    e = { (eventOf d e.id).onLine placed.1.number placed.1.text with function := placed.2 }

/-- There is an event for each diagnostic, and a function is named by a line of its own. -/
def IsComplete (lines : List Line) (events : List Event) : Prop :=
  Forall₂ Reports events ((inFunctions contextNamed? "" lines).filter (isDiagnostic ·.1.text))

theorem inFunctions_cons (named? : String → Option String) (function : String) (line : Line)
    (rest : List Line) :
    inFunctions named? function (line :: rest) =
      (line, function) :: inFunctions named? ((named? line.text).getD function) rest := by
  rw [inFunctions, List.mapIdx_cons]
  refine congrArg₂ List.cons rfl (List.mapIdx_eq_mapIdx_iff.mpr fun i within => ?_)
  rw [List.take_succ_cons, List.filterMap_cons]
  cases named? line.text with
  | none => rfl
  | some f => simp [List.getLast?_cons]

theorem inFunctions_congr {named? others? : String → Option String} {lines : List Line}
    (same : ∀ line ∈ lines, named? line.text = others? line.text) (function : String) :
    inFunctions named? function lines = inFunctions others? function lines := by
  induction lines generalizing function with
  | nil => rfl
  | cons line rest ih =>
    rw [inFunctions_cons, inFunctions_cons, same line (by simp),
      ih fun line member => same line (by simp [member])]

theorem map_fst_inFunctions (named? : String → Option String) (function : String)
    (lines : List Line) : (inFunctions named? function lines).map Prod.fst = lines := by
  induction lines generalizing function with
  | nil => rfl
  | cons line rest ih => rw [inFunctions_cons, List.map_cons, ih]

theorem filter_inFunctions (p : String → Bool) (named? : String → Option String)
    (function : String) (lines : List Line) :
    ((inFunctions named? function lines).filter (p ·.1.text)).map Prod.fst =
      lines.filter (p ·.text) := by
  conv_rhs => rw [← map_fst_inFunctions named? function lines, List.filter_map]
  rfl

theorem isReported_eq_true {text : String} :
    isReported text = true ↔ isDiagnostic text = true ∧ functionNamed? text = none := by
  rw [isReported, Bool.and_eq_true_iff, Option.isNone_iff_eq_none]

/-- The function that was named last goes along from line to line. -/
theorem eventsIn_reports {function : String} {id : Int} {lines : List Line} {events : List Event}
    (done : (eventsIn function id lines).Returns events) :
    Forall₂ Reports events
      ((inFunctions functionNamed? function lines).filter (isReported ·.1.text)) := by
  induction lines generalizing function id events with
  | nil =>
    rw [← Run.returns_pure.mp done]
    exact .nil
  | cons line rest ih =>
    rw [inFunctions_cons]
    unfold eventsIn at done
    split at done
    next m found =>
      have named : functionNamed? line.text = some (inFunction.capture m "func") := by
        rw [functionNamed?, found, Option.map_some]
      rw [List.filter_cons_of_neg (by simp [isReported, named]), named]
      exact ih done
    next missed =>
      have unnamed : functionNamed? line.text = none := by
        rw [functionNamed?, missed, Option.map_none]
      rw [unnamed]
      obtain ⟨event?, one, done⟩ := Run.returns_bind done
      obtain ⟨d?, read, one⟩ := Run.returns_bind one
      have read := Run.returns_ofNumber.mp read
      obtain rfl := Run.returns_pure.mp one
      cases d? with
      | none =>
        rw [List.filter_cons_of_neg (by simp [isReported, isDiagnostic, read])]
        exact ih done
      | some d =>
        obtain ⟨later, others, done⟩ := Run.returns_bind done
        rw [← Run.returns_pure.mp done, List.filter_cons_of_pos (by
          simp [isReported, isDiagnostic, read, unnamed])]
        exact .cons ⟨d, read, rfl⟩ (ih others)

theorem accepts_eq (content : String) :
    accepts content = pure ((Line.read Line.defaultLimit content).any (isDiagnostic ·.text)) := by
  refine Run.anyM_eq_pure fun line member => ?_
  obtain ⟨d?, known⟩ := compilerDiagnostic_answers member
  have read : diagnostic? line.text = .ok d? :=
    Run.returns_ofNumber.mp (Run.returns_of_eq known)
  rw [known, pure_bind, isDiagnostic, read]
  cases d? <;> rfl

/-- If an event tells of each diagnostic, none of them names a function. -/
theorem isComplete_iff {lines : List Line} {events : List Event}
    (reported : Forall₂ Reports events
      ((inFunctions functionNamed? "" lines).filter (isReported ·.1.text))) :
    IsComplete lines events ↔ ∀ line ∈ lines, isDiagnostic line.text = true →
      functionNamed? line.text = none := by
  constructor
  · intro complete line member diagnostic
    have fewer := List.monotone_filter_right lines
      (p := (isReported ·.text)) (q := (isDiagnostic ·.text))
      fun line told => (isReported_eq_true.mp told).1
    have all := fewer.eq_of_length (by
      rw [← filter_inFunctions, ← filter_inFunctions, List.length_map, List.length_map]
      exact reported.length_eq.symm.trans complete.length_eq)
    have inside : line ∈ lines.filter (isDiagnostic ·.text) := by simp [member, diagnostic]
    rw [← all, List.mem_filter] at inside
    exact (isReported_eq_true.mp inside.2).2
  · intro apart
    have names : ∀ line ∈ lines, contextNamed? line.text = functionNamed? line.text := by
      intro line member
      rw [contextNamed?]
      split
      next diagnostic => rw [apart line member diagnostic]
      next => rfl
    have told : ∀ placed ∈ inFunctions functionNamed? "" lines,
        isDiagnostic placed.1.text = isReported placed.1.text := by
      intro placed member
      have inside : placed.1 ∈ lines :=
        map_fst_inFunctions functionNamed? "" lines ▸ List.mem_map_of_mem member
      rw [Bool.eq_iff_iff, isReported_eq_true]
      exact ⟨fun diagnostic => ⟨diagnostic, apart _ inside diagnostic⟩, And.left⟩
    rw [IsComplete, inFunctions_congr names, List.filter_congr told]
    exact reported

theorem eq_nil_iff {lines : List Line} {events : List Event}
    (reported : Forall₂ Reports events
      ((inFunctions functionNamed? "" lines).filter (isReported ·.1.text))) :
    events = [] ↔ ∀ line ∈ lines, isDiagnostic line.text = true →
      functionNamed? line.text ≠ none := by
  have count := reported.length_eq
  rw [← List.length_map (f := Prod.fst), filter_inFunctions] at count
  rw [← List.length_eq_zero_iff, count, List.length_eq_zero_iff, List.filter_eq_nil_iff]
  simp only [isReported_eq_true, not_and, ne_eq]

/-- No event tells of a diagnostic that names a function, and all else is reported: each other
diagnostic, with the function it stands in. So a log may be recognised and not one event come out
of it. -/
theorem parse_reports (content : String) :
    ∃ events, format.parse content = pure events ∧
      Forall₂ Reports events
        ((inFunctions functionNamed? "" (Line.read Line.defaultLimit content)).filter
          (isReported ·.1.text)) ∧
      (IsComplete (Line.read Line.defaultLimit content) events ↔
        ∀ line ∈ Line.read Line.defaultLimit content, isDiagnostic line.text = true →
          functionNamed? line.text = none) ∧
      format.accepts content =
        pure ((Line.read Line.defaultLimit content).any (isDiagnostic ·.text)) ∧
      (events = [] ↔ ∀ line ∈ Line.read Line.defaultLimit content, isDiagnostic line.text = true →
        functionNamed? line.text ≠ none) := by
  obtain ⟨events, done⟩ := (compilerText_isAnswering content).parse
  have returned : (format.parse content).Returns events := Run.returns_of_eq done
  have reported := eventsIn_reports returned
  exact ⟨events, done, reported, isComplete_iff reported, accepts_eq content, eq_nil_iff reported⟩

/-- The message of the only diagnostic names a function. -/
theorem parse_reports_swallowed :
    format.accepts "a.c:1:2: error: In function 'f'\n" = pure true ∧
      format.parse "a.c:1:2: error: In function 'f'\n" = pure [] := by
  have lines : Line.read Line.defaultLimit "a.c:1:2: error: In function 'f'\n" =
      [⟨1, "a.c:1:2: error: In function 'f'", false⟩] := by rfl
  have diagnostic : isDiagnostic "a.c:1:2: error: In function 'f'" = true := by decide +kernel
  have named : functionNamed? "a.c:1:2: error: In function 'f'" ≠ none := by decide +kernel
  obtain ⟨events, done, -, -, accepted, nothing⟩ :=
    parse_reports "a.c:1:2: error: In function 'f'\n"
  rw [lines] at accepted nothing
  rw [nothing.mpr (by simpa using fun _ => named)] at done
  exact ⟨by simpa [diagnostic] using accepted, done⟩

end Format.CompilerText

end BuildLog
