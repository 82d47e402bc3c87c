import BuildLog.Format.AdHoc
import BuildLog.Format.Builtin
import BuildLog.Format.Rules
import BuildLog.Proofs.Run

/-! Numbers of events. A format that reads line by line hands the next number to each line, which
takes it only if it becomes an event; other formats number the finished list, or go on with the
number behind it for an event of their own. In every case the events of a log are numbered by
their places. -/
namespace BuildLog

def NumberedFrom (id : Int) : List Event → Prop
  | [] => True
  | e :: rest => e.id = id ∧ NumberedFrom (id + 1) rest

theorem numberedFrom_iff {id : Int} {events : List Event} :
    NumberedFrom id events ↔
      events.map (·.id) = (List.range events.length).map fun i : Nat => (i : Int) + id := by
  induction events generalizing id with
  | nil => simp [NumberedFrom]
  | cons e rest ih =>
    have shift :
        ((fun i : Nat => (i : Int) + id) ∘ Nat.succ) = fun i : Nat => (i : Int) + (id + 1) := by
      funext i
      simp only [Function.comp, Nat.succ_eq_add_one]
      omega
    rw [NumberedFrom, ih, List.length_cons, List.range_succ_eq_map, List.map_cons, List.map_cons,
      List.map_map, shift, List.cons.injEq]
    simp

theorem numberedFrom_append {id : Int} {events later : List Event} :
    NumberedFrom id (events ++ later) ↔
      NumberedFrom id events ∧ NumberedFrom (id + events.length) later := by
  induction events generalizing id with
  | nil => simp [NumberedFrom]
  | cons e rest ih =>
    have place : id + 1 + (rest.length : Int) = id + ((rest.length + 1 : Nat) : Int) := by omega
    simp only [List.cons_append, NumberedFrom, ih, List.length_cons, place, and_assoc]

theorem numberedFrom_singleton {id : Int} {e : Event} : NumberedFrom id [e] ↔ e.id = id := by
  simp [NumberedFrom]

theorem numberedFrom_mapIdx (events : List Event) :
    NumberedFrom 1 (events.mapIdx fun i e => { e with id := i + 1 }) := by
  rw [numberedFrom_iff]
  apply List.ext_getElem <;> simp

namespace LineReader

/-- A line that becomes an event takes the number handed to it. -/
def IsNumbering (read : LineReader) : Prop :=
  ∀ (text : String) (number id : Int) (e : Event),
    (read text number id).Returns (some e) → e.id = id

theorem eventsFrom_numbered {read : LineReader} (numbering : read.IsNumbering) {id : Int}
    {lines : List Line} {events : List Event} (done : (read.eventsFrom id lines).Returns events) :
    NumberedFrom id events := by
  induction lines generalizing id events with
  | nil =>
    rw [← Run.returns_pure.mp done]
    trivial
  | cons line rest ih =>
    obtain ⟨event?, one, done⟩ := Run.returns_bind done
    cases event? with
    | none => exact ih done
    | some e =>
      obtain ⟨later, others, done⟩ := Run.returns_bind done
      rw [← Run.returns_pure.mp done]
      exact ⟨numbering _ _ id e one, ih others⟩

end LineReader

namespace Format

/-- Whatever the format reads from a log is numbered from one. -/
def IsNumbering (f : Format) : Prop :=
  ∀ s content events, (f.run s content).Returns events → NumberedFrom 1 events

theorem isNumbering_of_parse {f : Format} (alone : f.parseWithin = none) (whole : f.streams = false)
    (numbered : ∀ content events, (f.parse content).Returns events → NumberedFrom 1 events) :
    f.IsNumbering := by
  intro s content events done
  simp only [run, alone, whole, Bool.false_and, Bool.false_eq_true, if_false] at done
  exact numbered _ events done

/-- A format that reads lines does so whichever way it is given a log. -/
theorem ofLines_isNumbering {profile : Profile} {accepts : String → Run Bool}
    {parseLine : LineReader} {parseLines : List Line → Run (List Event)}
    (numbered : ∀ lines events, (parseLines lines).Returns events → NumberedFrom 1 events) :
    (ofLines profile accepts parseLine parseLines).IsNumbering := by
  intro s content events done
  simp only [run, ofLines, Bool.true_and] at done
  split at done
  · exact numbered _ events done
  · exact numbered _ events done

theorem isNumbering_of_lineReader {profile : Profile} {accepts : String → Run Bool}
    {parseLine : LineReader} (numbering : parseLine.IsNumbering) :
    (ofLines profile accepts parseLine).IsNumbering :=
  ofLines_isNumbering fun _ _ done => LineReader.eventsFrom_numbered numbering done

namespace CompilerText

theorem parseLine_isNumbering : LineReader.IsNumbering parseLine := by
  intro text number id e done
  obtain ⟨d?, _, done⟩ := Run.returns_bind done
  obtain ⟨d, -, rfl⟩ := Option.map_eq_some_iff.mp (Run.returns_pure.mp done)
  rfl

/-- A line that names a function takes no number. -/
theorem eventsIn_numbered {function : String} {id : Int} {lines : List Line}
    {events : List Event} (done : (eventsIn function id lines).Returns events) :
    NumberedFrom id events := by
  induction lines generalizing function id events with
  | nil =>
    rw [← Run.returns_pure.mp done]
    trivial
  | cons line rest ih =>
    unfold eventsIn at done
    split at done
    · exact ih done
    obtain ⟨event?, one, done⟩ := Run.returns_bind done
    cases event? with
    | none => exact ih done
    | some e =>
      obtain ⟨later, others, done⟩ := Run.returns_bind done
      rw [← Run.returns_pure.mp done]
      exact ⟨parseLine_isNumbering _ _ id e one, ih others⟩

end CompilerText

theorem compilerText_isNumbering : CompilerText.format.IsNumbering :=
  ofLines_isNumbering fun _ _ done => CompilerText.eventsIn_numbered done

namespace LogRecord

theorem parseLine_isNumbering [Host] : LineReader.IsNumbering parseLine := by
  intro text number id e done
  obtain ⟨parts, -, rfl⟩ := Option.map_eq_some_iff.mp (Run.returns_pure.mp done)
  rfl

/-- A record keeps its number while lines are added to it. -/
theorem recordsFrom_numbered [Host] {open? : Option Event} {first id : Int} {lines : List Line}
    {events : List Event} (opened : NumberedFrom first open?.toList)
    (next : first + open?.toList.length = id)
    (done : (recordsFrom open? id lines).Returns events) : NumberedFrom first events := by
  -- The number of the open record, if there is one, stands right before that of the next.
  induction lines generalizing open? first id events with
  | nil =>
    rw [← Run.returns_pure.mp done]
    exact opened
  | cons line rest ih =>
    unfold recordsFrom at done
    obtain ⟨event?, one, done⟩ := Run.returns_bind done
    cases event? with
    | some e =>
      obtain ⟨later, others, done⟩ := Run.returns_bind done
      rw [← Run.returns_pure.mp done, numberedFrom_append, next]
      have own : NumberedFrom id (some e).toList :=
        numberedFrom_singleton.mpr (parseLine_isNumbering _ _ id e one)
      exact ⟨opened, ih own rfl others⟩
    | none =>
      dsimp only at done
      split at done
      · exact ih opened next done
      · cases open? with
        | none => exact ih opened next done
        | some e =>
          have kept : NumberedFrom first (some (fold e line)).toList :=
            numberedFrom_singleton.mpr (numberedFrom_singleton.mp opened)
          exact ih kept next done

end LogRecord

theorem logRecord_isNumbering [Host] : LogRecord.format.IsNumbering := by
  refine ofLines_isNumbering fun lines events done => ?_
  have opened : NumberedFrom 1 (none : Option Event).toList := trivial
  exact LogRecord.recordsFrom_numbered opened (by simp) done

theorem jsonLines_isNumbering [Host] : JsonLines.format.IsNumbering := by
  refine isNumbering_of_lineReader fun text number id e done => ?_
  unfold JsonLines.parseLine at done
  dsimp only at done
  split at done
  · cases Run.returns_pure.mp done
  · obtain ⟨record?, -, done⟩ := Run.returns_bind done
    obtain ⟨record, -, rfl⟩ := Option.map_eq_some_iff.mp (Run.returns_pure.mp done)
    rfl

theorem logfmt_isNumbering [Host] : Logfmt.format.IsNumbering := by
  refine isNumbering_of_lineReader fun text number id e done => ?_
  have made := Run.returns_pure.mp done
  split at made
  · cases made
  · rw [← Option.some.inj made]

theorem syslog_isNumbering [Host] : Syslog.format.IsNumbering := by
  refine isNumbering_of_lineReader fun text number id e done => ?_
  unfold Syslog.parseLine at done
  split at done
  · cases Run.returns_pure.mp done
  · obtain ⟨status, -, done⟩ := Run.returns_bind done
    rw [← Option.some.inj (Run.returns_pure.mp done)]

theorem prefixed_isNumbering : Prefixed.format.IsNumbering := by
  refine isNumbering_of_lineReader fun text number id e done => ?_
  obtain ⟨found, -, rfl⟩ := Option.map_eq_some_iff.mp (Run.returns_pure.mp done)
  rfl

theorem anyLint_isNumbering : AnyLint.format.IsNumbering := by
  have numbering : LineReader.IsNumbering AnyLint.parseLine := by
    intro text number id e done
    obtain ⟨d?, -, done⟩ := Run.returns_bind done
    obtain ⟨d, -, rfl⟩ := Option.map_eq_some_iff.mp (Run.returns_pure.mp done)
    rfl
  refine ofLines_isNumbering fun lines events done => ?_
  obtain ⟨found, read, done⟩ := Run.returns_bind done
  have made := Run.returns_pure.mp done
  split at made
  · rw [← made]
    exact numberedFrom_singleton.mpr rfl
  · rw [← made]
    exact LineReader.eventsFrom_numbered numbering read

theorem pytest_isNumbering : Pytest.format.IsNumbering := by
  have numbering : LineReader.IsNumbering Pytest.parseLine := by
    intro text number id e done
    obtain ⟨known, -, rfl⟩ := Option.map_eq_some_iff.mp (Run.returns_pure.mp done)
    rfl
  refine isNumbering_of_parse rfl rfl fun content events done => ?_
  exact LineReader.eventsFrom_numbered numbering done

/-- The summary has the number behind those of the findings. -/
theorem flake8_isNumbering : Flake8.format.IsNumbering := by
  have numbering : LineReader.IsNumbering Flake8.parseLine := by
    intro text number id e done
    unfold Flake8.parseLine at done
    split at done
    · cases Run.returns_pure.mp done
    obtain ⟨line, -, done⟩ := Run.returns_bind done
    obtain ⟨column, -, done⟩ := Run.returns_bind done
    rw [← Option.some.inj (Run.returns_pure.mp done)]
  refine isNumbering_of_parse rfl rfl fun content events done => ?_
  obtain ⟨findings, read, done⟩ := Run.returns_bind done
  rw [← Run.returns_pure.mp done, numberedFrom_append, numberedFrom_singleton]
  refine ⟨LineReader.eventsFrom_numbered numbering read, ?_⟩
  simp only [Flake8.summary]
  omega

theorem junit_isNumbering : Junit.format.IsNumbering := by
  refine isNumbering_of_parse rfl rfl fun content events done => ?_
  unfold Junit.format Junit.parse at done
  cases read : Xml.read? (Text.stripped content) with
  | none =>
    simp only [read] at done
    rw [← Run.returns_pure.mp done]
    trivial
  | some root =>
    simp only [read] at done
    obtain ⟨made, -, done⟩ := Run.returns_bind done
    rw [← Run.returns_pure.mp done]
    exact numberedFrom_mapIdx made

theorem eslint_isNumbering [Host] : Eslint.format.IsNumbering := by
  refine isNumbering_of_parse rfl rfl fun content events done => ?_
  obtain ⟨files?, -, done⟩ := Run.returns_bind done
  cases files? with
  | none =>
    rw [← Run.returns_pure.mp done]
    trivial
  | some files =>
    obtain ⟨made, -, done⟩ := Run.returns_bind done
    rw [← Run.returns_pure.mp done]
    exact numberedFrom_mapIdx made

/-- Whatever numbers the events of the steps had, the list of all is numbered anew. -/
theorem ciJob_isNumbering : CiJob.format.IsNumbering := by
  intro s content events done
  obtain ⟨made, -, done⟩ := Run.returns_bind (x := (CiJob.steps _).flatMapM _) done
  rw [← Run.returns_pure.mp done]
  exact numberedFrom_mapIdx _

theorem builtins_isNumbering [Host] : ∀ f ∈ builtins, f.IsNumbering := by
  simp only [builtins, List.forall_mem_cons, List.not_mem_nil, false_imp_iff, implies_true,
    and_true]
  exact ⟨ciJob_isNumbering, junit_isNumbering, eslint_isNumbering,
    compilerText_isNumbering, flake8_isNumbering, pytest_isNumbering, jsonLines_isNumbering,
    logfmt_isNumbering, syslog_isNumbering, logRecord_isNumbering, prefixed_isNumbering,
    anyLint_isNumbering⟩

namespace AdHoc

theorem eventOf_id {captures : Attributes} {whole : String} {line : Line} {id : Int} {e : Event}
    (done : (eventOf captures whole line id).Returns e) : e.id = id := by
  obtain ⟨number, -, done⟩ := Run.returns_bind done
  obtain ⟨column, -, done⟩ := Run.returns_bind done
  rw [← Run.returns_pure.mp done]

theorem eventsFrom_numbered {p : Pattern} {keepUnread : Bool} {id : Int} {lines : List Line}
    {events : List Event} (done : (eventsFrom p keepUnread id lines).Returns events) :
    NumberedFrom id events := by
  induction lines generalizing id events with
  | nil =>
    rw [← Run.returns_pure.mp done]
    trivial
  | cons line rest ih =>
    unfold eventsFrom at done
    split at done
    · obtain ⟨e, one, done⟩ := Run.returns_bind done
      obtain ⟨later, others, done⟩ := Run.returns_bind done
      rw [← Run.returns_pure.mp done]
      exact ⟨eventOf_id one, ih others⟩
    · split at done
      · obtain ⟨later, others, done⟩ := Run.returns_bind done
        rw [← Run.returns_pure.mp done]
        exact ⟨rfl, ih others⟩
      · exact ih done

theorem parse_numbered [Host] {pattern : String} {keepUnread : Bool} {content : String}
    {events : List Event} (done : (parse pattern keepUnread content).Returns events) :
    NumberedFrom 1 events := by
  obtain ⟨compiled, -, done⟩ := Run.returns_bind done
  cases compiled with
  | error e =>
    rw [← Run.returns_pure.mp done]
    exact numberedFrom_singleton.mpr rfl
  | ok p =>
    obtain ⟨found, read, done⟩ := Run.returns_bind done
    have numbered := eventsFrom_numbered read
    have made := Run.returns_pure.mp done
    split at made
    · rw [← made, numberedFrom_append, numberedFrom_singleton]
      refine ⟨numbered, ?_⟩
      simp only [noMatch]
      omega
    · rw [← made]
      exact numbered

end AdHoc

end Format

namespace Rule

theorem fill_id [Host] {e filled : Event} {field : Field} {text : String}
    (done : (fill e field text).Returns filled) : filled.id = e.id := by
  cases field with
  | line =>
    obtain ⟨n, -, done⟩ := Run.returns_bind done
    rw [← Run.returns_pure.mp done]
  | column =>
    obtain ⟨n, -, done⟩ := Run.returns_bind done
    rw [← Run.returns_pure.mp done]
  | _ => rw [← Run.returns_pure.mp done]

theorem fillAll_id [Host] {e filled : Event} {captures : Attributes}
    (done : (fillAll e captures).Returns filled) : filled.id = e.id := by
  induction captures generalizing e with
  | nil => rw [← Run.returns_pure.mp done]
  | cons capture rest ih =>
    unfold fillAll at done
    split at done
    · obtain ⟨next, one, done⟩ := Run.returns_bind done
      rw [ih done, fill_id one]
    · exact ih done

/-- No group of a pattern tells the number of the event. -/
theorem eventOf_id [Host] {r : Rule} {profile : Profile} {m : Pattern.Match} {line : String}
    {number id : Int} {e : Event} (done : (r.eventOf profile m line number id).Returns e) :
    e.id = id := by
  obtain ⟨filled, fields, done⟩ := Run.returns_bind done
  rw [← Run.returns_pure.mp done]
  exact fillAll_id fields

end Rule

theorem RuleSet.format_isNumbering [Host] (rules : RuleSet) : rules.format.IsNumbering := by
  refine Format.isNumbering_of_lineReader fun text number id e done => ?_
  unfold RuleSet.parseLine at done
  split at done
  · cases Run.returns_pure.mp done
  · obtain ⟨made, read, done⟩ := Run.returns_bind done
    rw [← Option.some.inj (Run.returns_pure.mp done)]
    exact Rule.eventOf_id read

end BuildLog
