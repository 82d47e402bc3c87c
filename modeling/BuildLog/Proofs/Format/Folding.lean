import BuildLog.Format.LogRecord
import BuildLog.Proofs.Line.Joining
import BuildLog.Proofs.Pattern.Spelling
import BuildLog.Proofs.Run
import BuildLog.Proofs.Text.Blank
import Mathlib.Data.List.Forall2

/-! Lines folded into the record above them. The records of a log part its lines: those before the
first record are dropped, and every other line that is not blank is in the event of the last record
that is not below it. Nothing else is in an event, and the events lie one behind the other. -/
namespace BuildLog.Format.LogRecord

open Pattern (CharClass Node)
open Text

def isRecord (line : Line) : Bool := (parts? line.text).isSome

def isFolded (line : Line) : Bool := !isBlankText line.text

theorem solid_of_prefix {s : String} {u : List Char} (ahead : u <+: s.toList)
    (solid : u.all isBlank = false) : isBlankText s = false := by
  obtain ⟨c, member, apart⟩ := List.all_eq_false.mp solid
  exact List.all_eq_false.mpr ⟨c, ahead.subset member, apart⟩

/-- A record with a timestamp begins with a digit. -/
theorem stamped_solid {s : String} (found : (stamped.matchStart s).isSome = true) :
    isBlankText s = false := by
  obtain ⟨later, rest, root⟩ : ∃ later rest, stamped.root =
      .cat (.anchor .textStart) (.cat (.group 1 (.cat (digits 4) later)) rest) := ⟨_, _, rfl⟩
  have begins : Pattern.Anchor.holds s.toList.toArray 0 .textStart = true := rfl
  rw [Pattern.matchStart, Pattern.matchAt, Option.isSome_map, root] at found
  simp only [Node.walk, begins, if_true, digits, Node.exactly] at found
  obtain ⟨n, enough, within, -⟩ := (Pattern.matchRun_isSome (by decide) _ _ _ _ _ _).mp found
  obtain ⟨-, u, ahead, rfl, digits⟩ := (Pattern.le_runLength_iff _ _ _ _ _).mp within
  obtain ⟨c, rest, rfl⟩ := List.exists_cons_of_length_pos (Nat.lt_of_lt_of_le (by decide) enough)
  have decimal : isDecimal c = true := by
    simpa [CharClass.has, CharClass.digits, Pattern.Item.has, Pattern.Category.has]
      using digits c List.mem_cons_self
  have solid : isBlank c = false := by
    by_contra blank
    rw [isDecimal_of_isBlank (by simpa using blank)] at decimal
    cases decimal
  exact solid_of_prefix ahead (by rw [List.all_cons, solid, Bool.false_and])

/-- A record without one begins with its level. -/
theorem plain_solid {s : String} (found : (plain.matchStart s).isSome = true) :
    isBlankText s = false := by
  rw [Pattern.matchStart_isSome (by decide)] at found
  obtain ⟨-, u, spelled, ahead, -⟩ := found
  refine solid_of_prefix ahead ?_
  simp only [Node.Spells, level, Node.literals, Node.choice, List.map_cons, List.map_nil,
    Node.spells_literal_iff] at spelled
  rcases spelled with rfl | rfl | rfl | rfl | rfl
  all_goals rfl

theorem isFolded_of_isRecord {line : Line} (record : isRecord line = true) :
    isFolded line = true := by
  have start {p : Pattern} {m : Pattern.Match}
      (found : p.matchWithin Line.defaultLimit line.text = some m) :
      (p.matchStart line.text).isSome = true := by
    unfold Pattern.matchWithin at found
    split at found
    · cases found
    · rw [found]
      rfl
  rw [isFolded, Bool.not_eq_true']
  unfold isRecord parts? at record
  split at record
  next m found => exact stamped_solid (start found)
  next =>
    rw [Option.isSome_map] at record
    obtain ⟨m, found⟩ := Option.isSome_iff_exists.mp record
    exact plain_solid (start found)

/-- A record and the lines that are folded into it. -/
structure Span where
  record : Line
  tail : List Line

namespace Span

def lines (s : Span) : List Line := s.record :: s.tail

def last (s : Span) : Line := s.tail.getLast?.getD s.record

def add (s : Span) (more : List Line) : Span := { s with tail := s.tail ++ more }

theorem last_mem (s : Span) : s.last ∈ s.lines := by
  unfold last
  cases ends : s.tail.getLast? with
  | none => exact List.mem_cons_self
  | some line => exact List.mem_cons_of_mem _ (List.mem_of_getLast? ends)

end Span

def tailOf (rest : List Line) : List Line :=
  (rest.takeWhile fun line => !isRecord line).filter isFolded

def spans : List Line → List Span
  | [] => []
  | line :: rest => if isRecord line then ⟨line, tailOf rest⟩ :: spans rest else spans rest

/-- The record stands among the lines, and its tail is what follows up to the next record. -/
def Span.IsOf (s : Span) (lines : List Line) : Prop :=
  ∃ before rest, lines = before ++ s.record :: rest ∧ s.tail = tailOf rest

theorem spans_isOf {lines : List Line} {s : Span} (member : s ∈ spans lines) : s.IsOf lines := by
  induction lines with
  | nil => cases member
  | cons line rest ih =>
    have behind : s ∈ spans rest → s.IsOf (line :: rest) := by
      intro later
      obtain ⟨before, after, rfl, tail⟩ := ih later
      exact ⟨line :: before, after, rfl, tail⟩
    unfold spans at member
    split at member
    · obtain rfl | later := List.mem_cons.mp member
      · exact ⟨[], rest, rfl, rfl⟩
      · exact behind later
    · exact behind member

theorem spans_records (lines : List Line) :
    (spans lines).map (·.record) = lines.filter isRecord := by
  induction lines with
  | nil => rfl
  | cons line rest ih =>
    unfold spans
    split
    next record => rw [List.map_cons, ih, List.filter_cons_of_pos record]
    next other => rw [ih, List.filter_cons_of_neg other]

/-- From the first record on, the spans hold all lines that are not blank, each once. -/
theorem spans_lines (lines : List Line) :
    (spans lines).flatMap Span.lines =
      (lines.dropWhile fun line => !isRecord line).filter isFolded := by
  induction lines with
  | nil => rfl
  | cons line rest ih =>
    unfold spans
    split
    next record =>
      rw [List.dropWhile_cons_of_neg (by simp [record]), List.flatMap_cons, ih, Span.lines,
        List.cons_append, tailOf, ← List.filter_append, List.takeWhile_append_dropWhile,
        List.filter_cons_of_pos (isFolded_of_isRecord record)]
    next other => rw [List.dropWhile_cons_of_pos (by simp [other]), ih]

/-- The event is that of the record, with the text of all lines of the span. -/
structure Folds [Host] (e : Event) (s : Span) : Prop where
  own : parseLine s.record.text s.record.number e.id =
    pure (some { e with text := s.record.text, lastLine := s.record.number })
  firstLine : e.firstLine = s.record.number
  lastLine : e.lastLine = s.last.number
  text : e.text = joined "\n" (s.lines.map (·.text))

theorem joined_concat (first : String) (parts : List String) (last : String) :
    joined "\n" (first :: parts ++ [last]) = joined "\n" (first :: parts) ++ "\n" ++ last := by
  have chars (first : List Char) (parts : List (List Char)) (last : List Char) :
      ['\n'].intercalate (first :: parts ++ [last]) =
        ['\n'].intercalate (first :: parts) ++ ['\n'] ++ last := by
    induction parts generalizing first with
    | nil => simp
    | cons second rest ih =>
      have later := ih second
      rw [List.cons_append] at later
      simp only [List.cons_append, List.intercalate_cons_cons, later, List.append_assoc]
  apply String.toList_inj.mp
  simpa [joined] using chars first.toList (parts.map String.toList) last.toList

theorem Folds.of_parseLine [Host] {line : Line} {id : Int} {e : Event}
    (done : parseLine line.text line.number id = pure (some e)) : Folds e ⟨line, []⟩ := by
  obtain ⟨parts, -, rfl⟩ :=
    Option.map_eq_some_iff.mp (Run.returns_pure.mp (Run.returns_of_eq done))
  exact ⟨done, rfl, rfl, rfl⟩

theorem Folds.kind [Host] {e : Event} {s : Span} (folds : Folds e s) : e.kind = .debugEvent := by
  obtain ⟨parts, -, made⟩ :=
    Option.map_eq_some_iff.mp (Run.returns_pure.mp (Run.returns_of_eq folds.own))
  exact (congrArg Event.kind made).symm

theorem Folds.fold [Host] {e : Event} {s : Span} (folds : Folds e s) (line : Line) :
    Folds (LogRecord.fold e line) (s.add [line]) where
  own := folds.own
  firstLine := folds.firstLine
  lastLine := by simp [LogRecord.fold, Span.last, Span.add]
  text := by
    have joins := joined_concat s.record.text (s.tail.map (·.text)) line.text
    simp only [LogRecord.fold, folds.text, Span.lines, Span.add, List.map_cons, List.map_append,
      List.map_nil]
    exact joins.symm

/-- The open record takes the lines up to the next one, which are no part of any other. -/
theorem recordsFrom_folds [Host] {open? : Option Event} {begun : List Span}
    (opened : List.Forall₂ Folds open?.toList begun) (id : Int) (lines : List Line) :
    ∃ events, recordsFrom open? id lines = pure events ∧
      List.Forall₂ Folds events (begun.map (·.add (tailOf lines)) ++ spans lines) := by
  -- What is open is the event of what is begun; a blank line leaves both alone.
  induction lines generalizing open? begun id with
  | nil =>
    refine ⟨open?.toList, rfl, ?_⟩
    simpa [tailOf, spans, Span.add] using opened
  | cons line rest ih =>
    unfold recordsFrom spans
    cases record : isRecord line with
    | true =>
      obtain ⟨parts, found⟩ := Option.isSome_iff_exists.mp record
      obtain ⟨e, one⟩ : ∃ e, parseLine line.text line.number id = pure (some e) :=
        ⟨_, by rw [parseLine, found]; rfl⟩
      have next : List.Forall₂ Folds (some e).toList [⟨line, []⟩] :=
        .cons (.of_parseLine one) .nil
      obtain ⟨later, others, folds⟩ := ih next (id + 1)
      have none : tailOf (line :: rest) = [] := by simp [tailOf, record]
      refine ⟨open?.toList ++ later, by simp only [one, others, pure_bind], ?_⟩
      simp only [none, Span.add, List.append_nil, List.map_id', if_true]
      refine List.rel_append opened ?_
      simpa [Span.add] using folds
    | false =>
      have one : parseLine line.text line.number id = pure none := by
        have missing : parts? line.text = none := by simpa [isRecord] using record
        rw [parseLine, missing]
        rfl
      simp only [one, pure_bind, Bool.false_eq_true, if_false]
      cases blank : isBlankText line.text with
      | true =>
        have same : tailOf (line :: rest) = tailOf rest := by
          simp [tailOf, record, isFolded, blank]
        simp only [if_true, same]
        exact ih opened id
      | false =>
        have more : tailOf (line :: rest) = line :: tailOf rest := by
          simp [tailOf, record, isFolded, blank]
        have extended : List.Forall₂ Folds (open?.map (LogRecord.fold · line)).toList
            (begun.map (·.add [line])) := by
          cases open? with
          | none =>
            cases opened
            exact .nil
          | some e =>
            obtain ⟨s, rest, folds, others, rfl⟩ := List.forall₂_cons_left_iff.mp opened
            cases others
            exact .cons (folds.fold line) .nil
        obtain ⟨events, done, folds⟩ := ih extended id
        refine ⟨events, by simpa using done, ?_⟩
        simpa [more, Span.add, Function.comp_def] using folds

theorem records_folds [Host] (lines : List Line) :
    ∃ events, format.parseLines lines = pure events ∧ List.Forall₂ Folds events (spans lines) := by
  have opened : List.Forall₂ Folds (none : Option Event).toList [] := .nil
  exact recordsFrom_folds opened 1 lines

/-- Every line of a span is behind all lines of the spans before. -/
theorem spans_ascend {lines : List Line} (ascends : lines.Pairwise fun a b => a.number < b.number) :
    (∀ s ∈ spans lines, s.lines.Pairwise fun a b => a.number < b.number) ∧
      (spans lines).Pairwise fun s t => ∀ a ∈ s.lines, ∀ b ∈ t.lines, a.number < b.number := by
  rw [← List.pairwise_flatMap, spans_lines]
  exact ascends.sublist (List.filter_sublist.trans (List.dropWhile_sublist _))

theorem Span.record_le_last {s : Span} (ascends : s.lines.Pairwise fun a b => a.number < b.number) :
    s.record.number ≤ s.last.number := by
  obtain same | later := List.mem_cons.mp s.last_mem
  · rw [same]
  · exact Nat.le_of_lt ((List.pairwise_cons.mp ascends).1 _ later)

/-- No line is in two spans. -/
theorem spans_disjoint {lines : List Line}
    (ascends : lines.Pairwise fun a b => a.number < b.number) {i j : Nat} {s t : Span}
    (first : (spans lines)[i]? = some s) (second : (spans lines)[j]? = some t) {line : Line}
    (inside : line ∈ s.lines) (also : line ∈ t.lines) : i = j := by
  obtain ⟨below, rfl⟩ := List.getElem?_eq_some_iff.mp first
  obtain ⟨within, rfl⟩ := List.getElem?_eq_some_iff.mp second
  have apart := List.pairwise_iff_getElem.mp (spans_ascend ascends).2
  obtain before | same | after := Nat.lt_trichotomy i j
  · exact absurd (apart i j below within before line inside line also) (Nat.lt_irrefl _)
  · exact same
  · exact absurd (apart j i within below after line also line inside) (Nat.lt_irrefl _)

/-- Whatever the limit, a log is read, and its events are those of its records, in their order. Each
has the text of its record and of the lines up to the next one that are not blank, and reaches from
the record to the last of these. From the first record on every line that is not blank is in exactly
one event, and each event ends before the next one begins. -/
theorem records_fold [Host] (limit : Int) (content : String) :
    let lines := Line.read limit content
    ∃ events, format.parseLines lines = pure events ∧
      List.Forall₂ Folds events (spans lines) ∧
      (spans lines).map (·.record) = lines.filter isRecord ∧
      (∀ s ∈ spans lines, s.IsOf lines) ∧
      (spans lines).flatMap Span.lines =
        (lines.dropWhile fun line => !isRecord line).filter isFolded ∧
      (∀ line ∈ lines.dropWhile fun line => !isRecord line, isBlankText line.text = false →
        ∃! i : Nat, ∃ s : Span, (spans lines)[i]? = some s ∧ line ∈ s.lines) ∧
      (∀ e ∈ events, e.firstLine ≤ e.lastLine) ∧
      events.Pairwise fun e f => e.lastLine < f.firstLine := by
  intro lines
  have ascends : lines.Pairwise fun a b => a.number < b.number := Line.read_ascends limit content
  obtain ⟨inner, outer⟩ := spans_ascend ascends
  obtain ⟨events, done, folds⟩ := records_folds lines
  have length := folds.length_eq
  have each (i : Nat) (below : i < events.length) (within : i < (spans lines).length) :
      Folds events[i] (spans lines)[i] := folds.get below within
  refine ⟨events, done, folds, spans_records lines, fun s => spans_isOf, spans_lines lines,
    fun line member solid => ?_, fun e member => ?_, ?_⟩
  · have kept : line ∈ (spans lines).flatMap Span.lines := by
      rw [spans_lines]
      exact List.mem_filter.mpr ⟨member, by simp [isFolded, solid]⟩
    obtain ⟨s, chosen, inside⟩ := List.mem_flatMap.mp kept
    obtain ⟨i, place⟩ := List.mem_iff_getElem?.mp chosen
    refine ⟨i, ⟨s, place, inside⟩, ?_⟩
    rintro j ⟨t, other, also⟩
    exact spans_disjoint ascends other place also inside
  · obtain ⟨i, below, rfl⟩ := List.mem_iff_getElem.mp member
    have folded := each i below (length ▸ below)
    have reach := Span.record_le_last (inner _ (List.getElem_mem (length ▸ below)))
    rw [folded.firstLine, folded.lastLine]
    omega
  · rw [List.pairwise_iff_getElem]
    intro i j below within before
    have first := each i below (length ▸ below)
    have second := each j within (length ▸ within)
    have apart := List.pairwise_iff_getElem.mp outer i j (length ▸ below) (length ▸ within) before
      _ (Span.last_mem _) _ List.mem_cons_self
    rw [first.lastLine, second.firstLine]
    omega

example : (spans (Line.read 2000
    "start\nERROR:db:refused\nTraceback:\n\n  in connect\nINFO:db:done")).map
      (fun s => s.lines.map (·.number)) = [[2, 3, 5], [6]] := by
  decide +kernel

end BuildLog.Format.LogRecord
