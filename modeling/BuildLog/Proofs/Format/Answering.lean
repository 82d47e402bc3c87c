import BuildLog.Format.AdHoc
import BuildLog.Format.Builtin
import BuildLog.Proofs.Decimal.Limit
import BuildLog.Proofs.Line.Joining
import BuildLog.Proofs.Run

/-! Formats that never give up. What they read from a line is short, since longer lines are cut or
passed over, so that no number in it has too many digits. -/
namespace BuildLog

namespace Pattern

theorem slice_length_le (text : Array Char) (first last : Nat) :
    (slice text first last).toList.length ≤ text.size := by
  rw [slice, String.toList_ofList, Array.length_toList, Array.size_extract]
  omega

/-- What a group took is part of the text. -/
theorem mem_captures_length_le {p : Pattern} {m : Match} {capture : String × String}
    (member : capture ∈ p.captures m) : capture.2.toList.length ≤ m.text.size := by
  obtain ⟨⟨name, value⟩, named, made⟩ := List.mem_filterMap.mp member
  obtain ⟨⟨_, index⟩, -, same⟩ := List.mem_map.mp named
  obtain ⟨text, part, rfl⟩ := Option.map_eq_some_iff.mp made
  cases same
  obtain ⟨⟨first, last⟩, -, rfl⟩ := Option.map_eq_some_iff.mp part
  exact slice_length_le m.text first last

theorem captures_length_le {p : Pattern} {m : Match} {name text : String}
    (captured : (p.captures m).get? name = some text) : text.toList.length ≤ m.text.size := by
  obtain ⟨before, after, split, -⟩ := List.lookup_eq_some_iff.mp captured
  have member : (name, text) ∈ p.captures m := by simp [split]
  exact mem_captures_length_le member

theorem capture_length_le (p : Pattern) (m : Match) (name : String) :
    (p.capture m name).toList.length ≤ m.text.size := by
  unfold Pattern.capture Attributes.get
  cases captured : (p.captures m).get? name with
  | none => simp
  | some text => exact captures_length_le captured

theorem searchLast_text {p : Pattern} {text : Array Char} {left : Nat} {m : Match}
    (found : p.searchLast text left = some m) : m.text = text := by
  have here {position : Nat} (matched : p.matchAt text position accept = some m) :
      m.text = text := by
    obtain ⟨point, -, rfl⟩ := Option.map_eq_some_iff.mp matched
    rfl
  induction left with
  | zero => exact here found
  | succ left ih =>
    rw [searchLast] at found
    split at found
    next first => exact here (first.trans found)
    next => exact ih found

theorem searchWithin_size_le {limit : Int} {p : Pattern} {s : String} {m : Match}
    (found : p.searchWithin limit s = some m) : (m.text.size : Int) ≤ limit := by
  unfold Pattern.searchWithin at found
  split at found
  · cases found
  next within =>
    rw [searchLast_text found]
    simpa [String.length_toList] using within

theorem matchWithin_size_le {limit : Int} {p : Pattern} {s : String} {m : Match}
    (found : p.matchWithin limit s = some m) : (m.text.size : Int) ≤ limit := by
  unfold Pattern.matchWithin at found
  split at found
  · cases found
  next within =>
    obtain ⟨point, -, rfl⟩ := Option.map_eq_some_iff.mp found
    simpa [String.length_toList] using within

end Pattern

/-- A line that is searched is too short for a number with too many digits. -/
theorem Line.le_digitLimit {n : Nat} (within : (n : Int) ≤ defaultLimit) :
    n ≤ Decimal.digitLimit := by
  simp only [defaultLimit] at within
  simp only [Decimal.digitLimit]
  omega

namespace Location

open Decimal (digitLimit)

theorem beforeColon?_length_le {cs before after : List Char}
    (cut : beforeColon? cs = some (before, after)) :
    before.length ≤ cs.length ∧ after.length ≤ cs.length := by
  unfold beforeColon? at cut
  split at cut
  · cases cut
  next rest behind =>
    cases cut
    have within : (cs.dropWhile (· != ':')).length ≤ cs.length :=
      (List.dropWhile_sublist _).length_le
    rw [behind, List.length_cons] at within
    exact ⟨(List.takeWhile_sublist _).length_le, by omega⟩

theorem number?_of_short {cs : List Char} (short : cs.length ≤ digitLimit) :
    ∃ n, number? cs = .ok n := by
  unfold number?
  split
  · exact ⟨none, rfl⟩
  · exact Decimal.boundedPrefix_of_short 32 short

theorem columnNumber_of_short {cs : List Char} (short : cs.length ≤ digitLimit) :
    ∃ n, columnNumber cs = .ok n := by
  unfold columnNumber
  split
  · exact ⟨-1, rfl⟩
  next digits rest cut =>
    obtain ⟨n, read⟩ := number?_of_short (Nat.le_trans (beforeColon?_length_le cut).1 short)
    exact ⟨n.getD (-1), by rw [read, Except.map]⟩

theorem read?_of_short {line : List Char} (short : line.length ≤ digitLimit) :
    ∃ l, read? line = .ok l := by
  unfold read?
  split
  · exact ⟨none, rfl⟩
  split
  · exact ⟨none, rfl⟩
  next digits rest cut =>
    obtain ⟨before, after⟩ := beforeColon?_length_le cut
    rw [List.length_drop] at before after
    have few : digits.length ≤ digitLimit := by omega
    have little : rest.length ≤ digitLimit := by omega
    obtain ⟨n?, line⟩ := number?_of_short few
    obtain ⟨column, right⟩ := columnNumber_of_short little
    simp only [line, right, bind, Except.bind, pure, Except.pure]
    cases n? <;> exact ⟨_, rfl⟩

end Location

theorem Diagnostic.read?_of_short {line : String}
    (short : line.toList.length ≤ Decimal.digitLimit) : ∃ d, read? line = .ok d := by
  obtain ⟨l?, located⟩ := Location.read?_of_short short
  simp only [read?, located, bind, Except.bind, pure, Except.pure]
  cases l? <;> exact ⟨_, rfl⟩

theorem LineReader.eventsFrom_answers {read : LineReader} {lines : List Line}
    (each : ∀ line ∈ lines, ∀ id, (read line.text line.number id).Answers) (id : Int) :
    (read.eventsFrom id lines).Answers := by
  induction lines generalizing id with
  | nil => exact Run.answers_pure []
  | cons line rest ih =>
    have others := ih fun line member => each line (by simp [member])
    refine (each line (by simp) id).bind fun event? => ?_
    cases event? with
    | none => exact others id
    | some e => exact (others (id + 1)).bind fun events => Run.answers_pure (e :: events)

/-- Where a single line is given up under a condition, the lines are if one of them meets it. -/
theorem LineReader.eventsFrom_failsIff {read : LineReader} {p : Line → Prop}
    (each : ∀ line id, (read line.text line.number id).FailsIff (p line)) (id : Int)
    (lines : List Line) : (read.eventsFrom id lines).FailsIff (∃ line ∈ lines, p line) := by
  induction lines generalizing id with
  | nil => exact .of_answers (Run.answers_pure []) (by simp)
  | cons line rest ih =>
    refine ((each line id).bind (q := ∃ line ∈ rest, p line) fun event? _ => ?_).congr (by simp)
    cases event? with
    | none => exact ih id
    | some e => exact (ih (id + 1)).bind_pure (e :: ·)

/-- Lines that answer do not keep one behind them from being given up on. -/
theorem LineReader.eventsFrom_eq_throw {read : LineReader} {fault : Fault}
    (each : ∀ (line : Line) id, (read line.text line.number id).Answers ∨
      read line.text line.number id = throw fault)
    {line : Line} (fails : ∀ id, read line.text line.number id = throw fault) {lines : List Line}
    (member : line ∈ lines) (id : Int) : read.eventsFrom id lines = throw fault := by
  induction lines generalizing id with
  | nil => cases member
  | cons first rest ih =>
    rw [eventsFrom]
    obtain rfl | later := List.mem_cons.mp member
    · rw [fails id, Run.throw_bind]
    obtain ⟨event?, one⟩ | one := each first id
    · rw [one, pure_bind]
      cases event? with
      | none => exact ih later id
      | some e =>
        dsimp only
        rw [ih later (id + 1), Run.throw_bind]
    · rw [one, Run.throw_bind]

namespace Format

structure IsAnswering (f : Format) (content : String) : Prop where
  accepts : (f.accepts content).Answers
  parse : (f.parse content).Answers

theorem defaultLimit_short {content : String} {line : Line}
    (member : line ∈ Line.read Line.defaultLimit content) :
    line.text.toList.length ≤ Decimal.digitLimit :=
  Nat.le_trans (Line.read_length_le member) (by decide)

/-- A format that reads line by line answers if it does so on each line. -/
theorem ofLines_isAnswering {profile : Profile} {accepts : String → Run Bool}
    {parseLine : LineReader} {content : String} (accepted : (accepts content).Answers)
    (each : ∀ line ∈ Line.read Line.defaultLimit content, ∀ id,
      (parseLine line.text line.number id).Answers) :
    (ofLines profile accepts parseLine).IsAnswering content :=
  ⟨accepted, LineReader.eventsFrom_answers each 1⟩

theorem logfmt_isAnswering [Host] (content : String) : Logfmt.format.IsAnswering content := by
  refine ofLines_isAnswering (Run.answers_pure _) fun line _ id => ?_
  exact Run.answers_pure _

theorem prefixed_isAnswering (content : String) : Prefixed.format.IsAnswering content := by
  refine ofLines_isAnswering (Run.answers_pure _) fun line _ id => ?_
  exact Run.answers_pure _

theorem pytest_isAnswering (content : String) : Pytest.format.IsAnswering content := by
  refine ⟨Run.answers_pure _, LineReader.eventsFrom_answers (fun line _ id => ?_) 1⟩
  exact Run.answers_pure _

theorem diagnostic_answers {content : String} {line : Line}
    (member : line ∈ Line.read Line.defaultLimit content) :
    (Run.ofNumber (Diagnostic.read? line.text)).Answers := by
  obtain ⟨d, right⟩ := Diagnostic.read?_of_short (defaultLimit_short member)
  exact ⟨d, by rw [right]; rfl⟩

theorem anyLint_isAnswering (content : String) : AnyLint.format.IsAnswering content := by
  constructor
  · refine Run.answers_anyM fun line member => ?_
    exact (diagnostic_answers (List.mem_of_mem_take member)).bind fun d => Run.answers_pure _
  · refine (LineReader.eventsFrom_answers (fun line member id => ?_) 1).bind fun events => ?_
    · exact (diagnostic_answers member).bind fun d => Run.answers_pure _
    · exact Run.answers_pure _

theorem compilerDiagnostic_answers {content : String} {line : Line}
    (member : line ∈ Line.read Line.defaultLimit content) :
    (Run.ofNumber (CompilerText.diagnostic? line.text)).Answers := by
  obtain ⟨d, right⟩ := Diagnostic.read?_of_short (defaultLimit_short member)
  exact ⟨_, by rw [CompilerText.diagnostic?, right]; rfl⟩

theorem eventsIn_answers {lines : List Line}
    (each : ∀ line ∈ lines, (Run.ofNumber (CompilerText.diagnostic? line.text)).Answers)
    (function : String) (id : Int) : (CompilerText.eventsIn function id lines).Answers := by
  induction lines generalizing function id with
  | nil => exact Run.answers_pure []
  | cons line rest ih =>
    have others := ih fun line member => each line (by simp [member])
    -- The function and the number change from line to line, but no fault depends on them.
    unfold CompilerText.eventsIn
    split
    · exact others _ id
    have first : (CompilerText.parseLine line.text line.number id).Answers :=
      (each line (by simp)).bind fun d => Run.answers_pure _
    refine first.bind fun event? => ?_
    cases event? with
    | none => exact others function id
    | some e => exact (others function (id + 1)).bind fun events => Run.answers_pure _

theorem compilerText_isAnswering (content : String) :
    CompilerText.format.IsAnswering content := by
  refine ⟨Run.answers_anyM fun line member => ?_,
    eventsIn_answers (fun line member => compilerDiagnostic_answers member) "" 1⟩
  exact (compilerDiagnostic_answers member).bind fun d => Run.answers_pure _

/-- The text of a group is no longer than the line, which is not read if it is too long. -/
theorem group_short {p : Pattern} {line : String} {m : Pattern.Match}
    (found : p.matchWithin Line.defaultLimit line = some m) {cs : List Char}
    (part : cs.length ≤ m.text.size) : cs.length ≤ Decimal.digitLimit :=
  Nat.le_trans part (Line.le_digitLimit (Pattern.matchWithin_size_le found))

theorem flake8_parseLine_answers (line : String) (number id : Int) :
    (Flake8.parseLine line number id).Answers := by
  unfold Flake8.parseLine
  split
  · exact Run.answers_pure none
  next m found =>
    have ordinal (name : String) :
        (Run.ofNumber (Flake8.ordinal (Flake8.finding.capture m name))).Answers := by
      have short := group_short found (Pattern.capture_length_le Flake8.finding m name)
      obtain ⟨n, right⟩ := Decimal.boundedPrefix_of_short 32 short
      exact ⟨_, by rw [Flake8.ordinal, right]; rfl⟩
    refine (ordinal "line").bind fun line => ?_
    exact (ordinal "col").bind fun column => Run.answers_pure _

theorem flake8_isAnswering (content : String) : Flake8.format.IsAnswering content := by
  refine ⟨Run.answers_pure _, ?_⟩
  refine (LineReader.eventsFrom_answers (fun line _ id => ?_) 1).bind fun events => ?_
  · exact flake8_parseLine_answers line.text line.number id
  · exact Run.answers_pure _

theorem syslog_status_answers {line : String} {parts : Attributes}
    (found : Syslog.parts? line = some parts) : (Syslog.status parts).Answers := by
  unfold Syslog.status
  split
  next digits given =>
    obtain ⟨m, located, rfl⟩ := Option.map_eq_some_iff.mp found
    have short := group_short located (Pattern.captures_length_le given)
    obtain ⟨n, right⟩ := Decimal.boundedPrefix_of_short 32 short
    rw [right]
    exact Run.answers_pure _
  next => exact Run.answers_pure _

theorem syslog_isAnswering [Host] (content : String) : Syslog.format.IsAnswering content := by
  refine ofLines_isAnswering (Run.answers_pure _) fun line _ id => ?_
  unfold Syslog.parseLine
  split
  · exact Run.answers_pure none
  next parts found => exact (syslog_status_answers found).bind fun status => Run.answers_pure _

namespace AdHoc

theorem first_length_le {a : Attributes} {n : Nat}
    (short : ∀ p ∈ a, p.2.toList.length ≤ n) (names : List String) :
    (a.first names).toList.length ≤ n := by
  have each (name : String) : (a.get name).toList.length ≤ n := by
    unfold Attributes.get
    cases found : a.get? name with
    | none => simp
    | some text =>
      obtain ⟨before, after, whole, -⟩ := List.lookup_eq_some_iff.mp found
      exact short (name, text) (by simp [whole])
  unfold Attributes.first
  cases found : (names.map a.get).find? (!·.isEmpty) with
  | none => simp
  | some text =>
    obtain ⟨name, -, rfl⟩ := List.mem_map.mp (List.mem_of_find?_eq_some found)
    exact each name

theorem number_answers {text : String} (short : text.toList.length ≤ Decimal.digitLimit)
    (otherwise : Int) : (number text otherwise).Answers := by
  obtain ⟨n, right⟩ := Decimal.boundedPrefix_of_short 32 short
  rw [number, right]
  exact Run.answers_pure _

/-- A line in which the pattern is found is short enough for its numbers. -/
theorem eventOf_answers {p : Pattern} {m : Pattern.Match} {text : String}
    (found : p.searchWithin Line.defaultLimit text = some m) (line : Line) (id : Int) :
    (eventOf (p.captures m) m.whole line id).Answers := by
  have short : ∀ capture ∈ p.captures m, capture.2.toList.length ≤ Decimal.digitLimit :=
    fun capture member => Nat.le_trans (Pattern.mem_captures_length_le member)
      (Line.le_digitLimit (Pattern.searchWithin_size_le found))
  have row := number_answers (first_length_le short names.line) line.number
  have column := number_answers (first_length_le short names.column) (-1)
  exact row.bind fun _ => column.bind fun _ => Run.answers_pure _

theorem eventsFrom_answers (p : Pattern) (keepUnread : Bool) (id : Int) (lines : List Line) :
    (eventsFrom p keepUnread id lines).Answers := by
  induction lines generalizing id with
  | nil => exact Run.answers_pure []
  | cons line rest ih =>
    rw [eventsFrom]
    split
    next m found =>
      refine (eventOf_answers found line id).bind fun e => ?_
      exact (ih (id + 1)).bind fun later => Run.answers_pure _
    next =>
      split
      · exact (ih (id + 1)).bind fun later => Run.answers_pure _
      · exact ih id

end AdHoc

end Format

end BuildLog
