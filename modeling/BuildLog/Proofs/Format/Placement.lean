import BuildLog.Format.AdHoc
import BuildLog.Proofs.Format.Documents
import BuildLog.Proofs.Format.Faults
import BuildLog.Proofs.Format.Findings
import BuildLog.Proofs.Text.Blank

/-! Places of events. Formats that read a log line by line number their events by the lines that the
reader delivered, whichever lines they pass over, and quote the line they name. What is not read
from a line is a summary. A format may be given up on for a line; then no event is told. -/
namespace BuildLog

open Text

/-- Events that name a line are of this line alone and quote it, and each is of a later line than
the one before; the others are summaries. -/
structure ArePlaced (lines : List Line) (events : List Event) : Prop where
  placed : ∀ e ∈ events, 0 < e.firstLine →
    e.lastLine = e.firstLine ∧ e.firstLine ≤ lines.length ∧
      ∃ line, lines[(e.firstLine - 1).toNat]? = some line ∧ e.text = line.text
  ascends : (events.filter fun e => 0 < e.firstLine).Pairwise fun e f => e.firstLine < f.firstLine
  others : ∀ e ∈ events, ¬0 < e.firstLine →
    e.firstLine = -1 ∧ e.lastLine = -1 ∧ e.kind = .summary

structure Event.IsUnplaced (e : Event) : Prop where
  firstLine : e.firstLine = -1
  lastLine : e.lastLine = -1
  kind : e.kind = .summary

namespace Line

def AreNumbered (lines : List Line) : Prop :=
  ∀ (i : Nat) (line : Line), lines[i]? = some line → line.number = i + 1

theorem read_areNumbered (limit : Int) (content : String) : AreNumbered (read limit content) := by
  intro i line found
  rw [getElem?_read] at found
  obtain ⟨cs, -, rfl⟩ := Option.map_eq_some_iff.mp found
  exact capped_number _ _ _

def trimmed (line : Line) : Line := { line with text := stripped line.text }

theorem AreNumbered.trimmed {lines : List Line} (numbered : AreNumbered lines) :
    AreNumbered (lines.map Line.trimmed) := by
  intro i line found
  rw [List.getElem?_map] at found
  obtain ⟨whole, place, rfl⟩ := Option.map_eq_some_iff.mp found
  exact numbered i whole place

theorem AreNumbered.ascends {lines : List Line} (numbered : AreNumbered lines) :
    lines.Pairwise fun a b => a.number < b.number := by
  rw [List.pairwise_iff_getElem]
  intro i j below within before
  rw [numbered i _ (List.getElem?_eq_getElem below), numbered j _ (List.getElem?_eq_getElem within)]
  omega

end Line

/-- Events that quote lines in their order are placed, and what is told behind them without a line
does not change that. -/
theorem QuotesInOrder.arePlaced_append {lines : List Line} {events rest : List Event}
    (quoting : QuotesInOrder events lines) (numbered : Line.AreNumbered lines)
    (unplaced : ∀ e ∈ rest, e.IsUnplaced) : ArePlaced lines (events ++ rest) := by
  have quoted {e : Event} (member : e ∈ events) :
      ∃ i line, lines[i]? = some line ∧ e.Quotes line ∧ e.firstLine = ((i + 1 : Nat) : Int) := by
    obtain ⟨line, inside, quotes⟩ := quoting.exists_quoted member
    obtain ⟨i, place⟩ := List.mem_iff_getElem?.mp inside
    exact ⟨i, line, place, quotes, by rw [quotes.firstLine, numbered i line place]⟩
  have positive {e : Event} (member : e ∈ events) : 0 < e.firstLine := by
    obtain ⟨i, -, -, -, first⟩ := quoted member
    omega
  have none : rest.filter (fun e => 0 < e.firstLine) = [] := by
    refine List.filter_eq_nil_iff.mpr fun e member => ?_
    rw [(unplaced e member).firstLine]
    decide
  refine ⟨fun e member above => ?_, ?_, fun e member below => ?_⟩
  · obtain found | behind := List.mem_append.mp member
    · obtain ⟨i, line, place, quotes, first⟩ := quoted found
      have within : i < lines.length := (List.getElem?_eq_some_iff.mp place).1
      have index : (e.firstLine - 1).toNat = i := by omega
      refine ⟨by rw [quotes.lastLine, quotes.firstLine], by omega, line, ?_, quotes.text⟩
      rw [index, place]
    · rw [(unplaced e behind).firstLine] at above
      omega
  · rw [List.filter_append, none, List.append_nil,
      List.filter_eq_self.mpr fun e member => decide_eq_true (positive member)]
    obtain ⟨kept, pairs, part⟩ := List.sublistForall₂_iff.mp quoting
    have later := numbered.ascends.sublist part
    rw [List.pairwise_iff_getElem] at later ⊢
    intro i j below within before
    have length := pairs.length_eq
    have first : events[i].Quotes kept[i] := pairs.get below (length ▸ below)
    have second : events[j].Quotes kept[j] := pairs.get within (length ▸ within)
    have apart := later i j (length ▸ below) (length ▸ within) before
    rw [first.firstLine, second.firstLine]
    omega
  · obtain found | behind := List.mem_append.mp member
    · exact absurd (positive found) below
    · exact ⟨(unplaced e behind).firstLine, (unplaced e behind).lastLine, (unplaced e behind).kind⟩

theorem QuotesInOrder.arePlaced {lines : List Line} {events : List Event}
    (quoting : QuotesInOrder events lines) (numbered : Line.AreNumbered lines) :
    ArePlaced lines events := by
  have none : ∀ e ∈ ([] : List Event), e.IsUnplaced := by simp
  simpa using quoting.arePlaced_append numbered none

/-- Under the condition the computation gives up; without it there are events, and they are placed
in the lines. What was told before makes no difference. -/
structure Places (lines : List Line) (faulty : Prop) (x : Run (List Event)) : Prop where
  fails : faulty → ∃ e, x.Ends (.error e)
  placed : ¬faulty → ∃ events, x.Ends (.ok events) ∧ ArePlaced lines events

theorem Places.of_failsIff {lines : List Line} {faulty : Prop} {x : Run (List Event)}
    (fails : x.FailsIff faulty) (placed : ∀ events, x.Returns events → ArePlaced lines events) :
    Places lines faulty x where
  fails given := by
    obtain ⟨e, rfl⟩ := fails.fails given
    exact ⟨e, fun told => ⟨told, rfl⟩⟩
  placed free := by
    obtain ⟨events, rfl⟩ := fails.answers free
    exact ⟨events, Run.ends_pure events, placed events (Run.returns_pure.mpr rfl)⟩

theorem Places.of_answers {lines : List Line} {x : Run (List Event)} (done : x.Answers)
    (placed : ∀ events, x.Returns events → ArePlaced lines events) : Places lines False x :=
  .of_failsIff (.of_answers done id) placed

namespace LineReader

variable {read : LineReader} {lines : List Line}

theorem ReadsWhere.places {finds : String → Bool} (reads : read.ReadsWhere finds)
    (numbered : Line.AreNumbered lines) : Places lines False (read.events lines) := by
  obtain ⟨events, done, quoting⟩ := reads.eventsFrom 1 lines
  have inOrder : QuotesInOrder events lines :=
    List.sublistForall₂_iff.mpr ⟨_, quoting, List.filter_sublist⟩
  refine .of_answers ⟨events, done⟩ fun others found => ?_
  rw [LineReader.events, done] at found
  exact Run.returns_pure.mp found ▸ inOrder.arePlaced numbered

theorem IsQuoting.places (quoting : read.IsQuoting) (numbered : Line.AreNumbered lines)
    (answers : (read.events lines).Answers) : Places lines False (read.events lines) :=
  .of_answers answers fun _ done => (eventsFrom_quotes quoting done).arePlaced numbered

end LineReader

namespace Format

variable {lines : List Line}

theorem prefixed_places (numbered : Line.AreNumbered lines) :
    Places lines False (Prefixed.format.parseLines lines) := by
  have quoting : LineReader.IsQuoting Prefixed.parseLine := by
    intro line id e done
    obtain ⟨found, -, rfl⟩ := Option.map_eq_some_iff.mp (Run.returns_pure.mp done)
    exact ⟨rfl, rfl, rfl⟩
  refine quoting.places numbered (LineReader.eventsFrom_answers (fun line _ id => ?_) 1)
  exact Run.answers_pure _

theorem logfmt_places [Host] (numbered : Line.AreNumbered lines) :
    Places lines False (Logfmt.format.parseLines lines) := by
  have quoting : LineReader.IsQuoting Logfmt.parseLine := by
    intro line id e done
    have made := Run.returns_pure.mp done
    split at made
    · cases made
    · rw [← Option.some.inj made]
      exact ⟨rfl, rfl, rfl⟩
  refine quoting.places numbered (LineReader.eventsFrom_answers (fun line _ id => ?_) 1)
  exact Run.answers_pure _

theorem syslog_places [Host] (numbered : Line.AreNumbered lines) :
    Places lines False (Syslog.format.parseLines lines) :=
  Syslog.parseLine_readsWhere.places numbered

theorem rules_places [Host] (rules : RuleSet) (numbered : Line.AreNumbered lines) :
    Places lines False (rules.format.parseLines lines) :=
  rules.parseLine_readsWhere.places numbered

/-- The place that the line tells has a number with too many digits. -/
def IsOverlong (line : Line) : Prop := ∃ e, Diagnostic.read? line.text = .error e

theorem compilerText_diagnostic_failsIff (line : Line) :
    (Run.ofNumber (CompilerText.diagnostic? line.text)).FailsIff (IsOverlong line) := by
  refine Run.ofNumber_failsIff ?_
  unfold CompilerText.diagnostic? IsOverlong
  cases Diagnostic.read? line.text with
  | error e => simp [Except.map]
  | ok d => simp [Except.map]

/-- A line that names a function is not read for a place. -/
theorem compilerText_eventsIn_failsIff (function : String) (id : Int) (lines : List Line) :
    (CompilerText.eventsIn function id lines).FailsIff (∃ line ∈ lines,
      CompilerText.inFunction.search line.text = none ∧ IsOverlong line) := by
  induction lines generalizing function id with
  | nil => exact .of_answers (Run.answers_pure []) (by simp)
  | cons line rest ih =>
    unfold CompilerText.eventsIn
    split
    next m found => exact (ih _ id).congr (by simp [found])
    next missing =>
      have one : (CompilerText.parseLine line.text line.number id).FailsIff (IsOverlong line) :=
        (compilerText_diagnostic_failsIff line).bind_pure _
      refine (one.bind (q := ∃ line ∈ rest, CompilerText.inFunction.search line.text = none ∧
        IsOverlong line) fun event? _ => ?_).congr (by simp [missing])
      cases event? with
      | none => exact ih function id
      | some e => exact (ih function (id + 1)).bind_pure _

theorem compilerText_places (numbered : Line.AreNumbered lines) :
    Places lines (∃ line ∈ lines, CompilerText.inFunction.search line.text = none ∧
      IsOverlong line) (CompilerText.format.parseLines lines) :=
  .of_failsIff (compilerText_eventsIn_failsIff "" 1 lines) fun _ done =>
    (CompilerText.eventsIn_quotes done).arePlaced numbered

/-- A log in which nothing was found is told to be clean, in a summary without a line. -/
theorem anyLint_places (numbered : Line.AreNumbered lines) :
    Places lines (∃ line ∈ lines, IsOverlong line) (AnyLint.format.parseLines lines) := by
  have quoting : LineReader.IsQuoting AnyLint.parseLine := by
    intro line id e done
    obtain ⟨d?, -, done⟩ := Run.returns_bind done
    obtain ⟨d, -, rfl⟩ := Option.map_eq_some_iff.mp (Run.returns_pure.mp done)
    exact ⟨rfl, rfl, rfl⟩
  have each (line : Line) (id : Int) :
      (AnyLint.parseLine line.text line.number id).FailsIff (IsOverlong line) :=
    (Run.ofNumber_failsIff Iff.rfl).bind_pure _
  refine .of_failsIff ((LineReader.eventsFrom_failsIff each 1 lines).bind_pure _) ?_
  intro events done
  obtain ⟨found, read, done⟩ := Run.returns_bind done
  have inOrder := LineReader.eventsFrom_quotes quoting read
  have made := Run.returns_pure.mp done
  split at made
  next empty =>
    rw [← made]
    have clean : ∀ e ∈ [AnyLint.clean], e.IsUnplaced := by
      simp only [List.forall_mem_singleton]
      exact ⟨rfl, rfl, rfl⟩
    exact QuotesInOrder.arePlaced_append .nil numbered clean
  next =>
    rw [← made]
    exact inOrder.arePlaced numbered

/-- Records are read from lines without the blanks around them. -/
theorem jsonLines_places [Host] (numbered : Line.AreNumbered lines) :
    Places (lines.map Line.trimmed)
      (∃ line ∈ lines, Json.read (stripped line.text) = .error .tooDeep)
      (JsonLines.format.parseLines lines) := by
  refine .of_failsIff (LineReader.eventsFrom_failsIff
    (fun line id => JsonLines.parseLine_failsIff line.text line.number id) 1 lines) ?_
  intro events done
  have inOrder : List.SublistForall₂ (fun e line => e.Quotes line.trimmed) events lines := by
    refine LineReader.eventsFrom_inOrder (fun line id e one => ?_) done
    unfold JsonLines.parseLine at one
    dsimp only at one
    split at one
    · cases Run.returns_pure.mp one
    · obtain ⟨record?, -, one⟩ := Run.returns_bind one
      obtain ⟨record, -, rfl⟩ := Option.map_eq_some_iff.mp (Run.returns_pure.mp one)
      exact ⟨rfl, rfl, rfl⟩
  exact QuotesInOrder.arePlaced (List.sublistForall₂_map_right_iff.mpr inOrder) numbered.trimmed

theorem flake8_places (content : String) :
    Places (Line.read Line.defaultLimit content) False (Flake8.format.parse content) := by
  refine .of_answers (flake8_isAnswering content).parse fun events done => ?_
  obtain ⟨findings, rfl, inOrder⟩ := Flake8.parse_quotes done
  refine inOrder.arePlaced_append (Line.read_areNumbered _ _) ?_
  simp only [List.forall_mem_singleton]
  exact ⟨rfl, rfl, rfl⟩

theorem pytest_places (content : String) :
    Places (Line.read Line.defaultLimit content) False (Pytest.format.parse content) :=
  Pytest.parseLine_isQuoting.places (Line.read_areNumbered _ _)
    (pytest_isAnswering content).parse

namespace AdHoc

theorem eventOf_quotes {captures : Attributes} {whole : String} {line : Line} {id : Int}
    {e : Event} (done : (eventOf captures whole line id).Returns e) : e.Quotes line := by
  obtain ⟨row, -, done⟩ := Run.returns_bind done
  obtain ⟨column, -, done⟩ := Run.returns_bind done
  rw [← Run.returns_pure.mp done]
  exact ⟨rfl, rfl, rfl⟩

theorem eventsFrom_quotes {p : Pattern} {keepUnread : Bool} {id : Int} {lines : List Line}
    {events : List Event} (done : (eventsFrom p keepUnread id lines).Returns events) :
    QuotesInOrder events lines := by
  induction lines generalizing id events with
  | nil =>
    rw [← Run.returns_pure.mp done]
    exact .nil
  | cons line rest ih =>
    unfold eventsFrom at done
    split at done
    · obtain ⟨e, one, done⟩ := Run.returns_bind done
      obtain ⟨later, others, done⟩ := Run.returns_bind done
      rw [← Run.returns_pure.mp done]
      exact .cons (eventOf_quotes one) (ih others)
    · split at done
      · obtain ⟨later, others, done⟩ := Run.returns_bind done
        rw [← Run.returns_pure.mp done]
        exact .cons ⟨rfl, rfl, rfl⟩ (ih others)
      · exact .cons_right (ih done)

/-- A pattern is read, or there is something wrong with it, or it overtaxes the reader. -/
theorem compiled_ends [Host] (pattern : String) :
    (∃ e, Overtaxes pattern e ∧ (compiled pattern).Ends (.error e)) ∨
      ((¬∃ e, Overtaxes pattern e) ∧ ∃ compiled?, (compiled pattern).Ends (.ok compiled?)) := by
  obtain ⟨r, ends, faults⟩ := Pattern.compile_breaksBy pattern
  have tried := ends.attempt
  unfold compiled
  cases r with
  | ok p =>
    refine .inr ⟨by simp [faults], .ok p, tried.bind_ok (Run.ends_pure _)⟩
  | error cause =>
    cases told : cause.isConfig with
    | true =>
      obtain ⟨m, rfl⟩ : ∃ m, cause = .config m := by
        cases cause with
        | config m => exact ⟨m, rfl⟩
        | _ => cases told
      refine .inr ⟨?_, .error m, tried.bind_ok (Run.ends_pure _)⟩
      rintro ⟨e, overtaxes⟩
      obtain ⟨same, plain⟩ := (faults e).mp overtaxes
      rw [← Except.error.inj same] at plain
      cases plain
    | false =>
      refine .inl ⟨cause, (faults cause).mpr ⟨rfl, told⟩, tried.bind_ok ?_⟩
      cases cause with
      | config m => cases told
      | _ => exact fun before => ⟨before, rfl⟩

end AdHoc

/-- What is said of a pattern that is faulty or matches nothing is a summary without a line. -/
theorem adHoc_places [Host] (pattern : String) (keepUnread : Bool) (content : String) :
    Places (Line.read Line.defaultLimit content) (∃ e, Overtaxes pattern e)
      (AdHoc.parse pattern keepUnread content) := by
  have numbered := Line.read_areNumbered Line.defaultLimit content
  unfold AdHoc.parse
  obtain ⟨e, overtaxes, ends⟩ | ⟨free, compiled?, ends⟩ := AdHoc.compiled_ends pattern
  · exact ⟨fun _ => ⟨e, ends.bind_error _⟩, fun free => absurd ⟨e, overtaxes⟩ free⟩
  refine ⟨fun overtaxed => absurd overtaxed free, fun _ => ?_⟩
  cases compiled? with
  | error m =>
    refine ⟨_, ends.bind_ok (Run.ends_pure _), ?_⟩
    have rejected : ∀ e ∈ [AdHoc.rejected pattern m], e.IsUnplaced := by
      simp only [List.forall_mem_singleton]
      exact ⟨rfl, rfl, rfl⟩
    exact QuotesInOrder.arePlaced_append .nil numbered rejected
  | ok p =>
    obtain ⟨events, found⟩ := AdHoc.eventsFrom_answers p keepUnread 1
      (Line.read Line.defaultLimit content)
    have inOrder := AdHoc.eventsFrom_quotes (Run.returns_of_eq found)
    refine ⟨if events.all (·.kind == .unknown) then
      events ++ [AdHoc.noMatch pattern (events.length + 1)] else events, ends.bind_ok ?_, ?_⟩
    · dsimp only
      rw [found, pure_bind]
      exact Run.ends_pure _
    · split
      · have noMatch : ∀ e ∈ [AdHoc.noMatch pattern (events.length + 1)], e.IsUnplaced := by
          simp only [List.forall_mem_singleton]
          exact ⟨rfl, rfl, rfl⟩
        exact inOrder.arePlaced_append numbered noMatch
      · exact inOrder.arePlaced numbered

/-- Whatever the log and the limit, formats that read lines place their events in the lines that
were delivered to them: those that are handed the limit in the lines under it, the others in the
lines under the default one. No event is told of a log with a line that is given up on. -/
theorem events_placed [Host] (limit : Int) (content : String) :
    let lines := Line.read limit content
    let usual := Line.read Line.defaultLimit content
    Places lines (∃ line ∈ lines, CompilerText.inFunction.search line.text = none ∧
        IsOverlong line) (CompilerText.format.parseLines lines) ∧
      Places lines False (Prefixed.format.parseLines lines) ∧
      Places lines (∃ line ∈ lines, IsOverlong line) (AnyLint.format.parseLines lines) ∧
      Places lines False (Syslog.format.parseLines lines) ∧
      Places lines False (Logfmt.format.parseLines lines) ∧
      Places (lines.map Line.trimmed)
        (∃ line ∈ lines, Json.read (stripped line.text) = .error .tooDeep)
        (JsonLines.format.parseLines lines) ∧
      (∀ rules : RuleSet, Places lines False (rules.format.parseLines lines)) ∧
      Places usual False (Flake8.format.parse content) ∧
      Places usual False (Pytest.format.parse content) ∧
      ∀ pattern keepUnread, Places usual (∃ e, Overtaxes pattern e)
        (AdHoc.parse pattern keepUnread content) := by
  intro lines usual
  have numbered := Line.read_areNumbered limit content
  exact ⟨compilerText_places numbered, prefixed_places numbered, anyLint_places numbered,
    syslog_places numbered, logfmt_places numbered, jsonLines_places numbered,
    fun rules => rules_places rules numbered, flake8_places content, pytest_places content,
    fun pattern keepUnread => adHoc_places pattern keepUnread content⟩

end Format

end BuildLog
