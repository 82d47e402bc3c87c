import BuildLog.Format.AdHoc
import BuildLog.Format.Builtin
import BuildLog.Proofs.Line.Delivery

/-! Which lines of a log the formats see. Formats that are handed the caller's limit depend on a log
through its lines under that limit alone; the others cut lines themselves, under the default
limit, and do not look at the caller's. -/
namespace BuildLog

/-- Whether a line was cut is not told to the reader. -/
theorem LineReader.eventsFrom_uncut (read : LineReader) (id : Int) (lines : List Line) :
    read.eventsFrom id (lines.map Line.uncut) = read.eventsFrom id lines := by
  induction lines generalizing id with
  | nil => rfl
  | cons line rest ih =>
    simp only [List.map_cons, eventsFrom, Line.uncut_text, Line.uncut_number, ih]

namespace Format

/-- The limit under which the format sees the lines of a log, if `limit` is the caller's. -/
def keptLimit (f : Format) (limit : Int) : Int :=
  if f.streams || f.needsContext then limit else Line.defaultLimit

/-- The format depends on a log only through its lines under the limit that it keeps. -/
def IsBounded (f : Format) : Prop :=
  ∀ (s : Surroundings) (content other : String),
    Line.AgreeUnder (f.keptLimit s.limit) content other → f.run s content = f.run s other

/-- Outside of documents a format that reads lines is handed those under the caller's limit. -/
theorem ofLines_run {profile : Profile} {accepts : String → Run Bool} {parseLine : LineReader}
    {parseLines : List Line → Run (List Event)} (text : profile.family = .text) (s : Surroundings)
    (content : String) :
    (ofLines profile accepts parseLine parseLines).run s content =
      parseLines (Line.read s.limit content) := by
  simp only [run, ofLines, text, Family.payload, Bool.true_and, beq_self_eq_true, if_true]

theorem ofLines_isBounded {profile : Profile} {accepts : String → Run Bool}
    {parseLine : LineReader} {parseLines : List Line → Run (List Event)}
    (text : profile.family = .text)
    (blind : ∀ lines, parseLines (lines.map Line.uncut) = parseLines lines) :
    (ofLines profile accepts parseLine parseLines).IsBounded := by
  intro s content other agree
  have same : (Line.read s.limit content).map Line.uncut =
      (Line.read s.limit other).map Line.uncut := agree
  rw [ofLines_run text, ofLines_run text, ← blind, same, blind]

theorem isBounded_of_lineReader {profile : Profile} {accepts : String → Run Bool}
    {parseLine : LineReader} (text : profile.family = .text) :
    (ofLines profile accepts parseLine).IsBounded :=
  ofLines_isBounded text (parseLine.eventsFrom_uncut 1)

namespace CompilerText

theorem eventsIn_uncut (function : String) (id : Int) (lines : List Line) :
    eventsIn function id (lines.map Line.uncut) = eventsIn function id lines := by
  induction lines generalizing function id with
  | nil => rfl
  | cons line rest ih =>
    simp only [List.map_cons, eventsIn, Line.uncut_text, Line.uncut_number, ih]

end CompilerText

theorem compilerText_isBounded : CompilerText.format.IsBounded :=
  ofLines_isBounded rfl (CompilerText.eventsIn_uncut "" 1)

namespace LogRecord

theorem recordsFrom_uncut [Host] (open? : Option Event) (id : Int) (lines : List Line) :
    recordsFrom open? id (lines.map Line.uncut) = recordsFrom open? id lines := by
  induction lines generalizing open? id with
  | nil => rfl
  | cons line rest ih =>
    have folded (e : Event) : fold e line.uncut = fold e line := rfl
    simp only [List.map_cons, recordsFrom, Line.uncut_text, Line.uncut_number, ih, folded]

end LogRecord

theorem logRecord_isBounded [Host] : LogRecord.format.IsBounded :=
  ofLines_isBounded rfl (LogRecord.recordsFrom_uncut none 1)

theorem anyLint_isBounded : AnyLint.format.IsBounded := by
  apply ofLines_isBounded rfl
  intro lines
  simp only [AnyLint.parseLines, LineReader.events, LineReader.eventsFrom_uncut]

/-- A format that reads the lines under the default limit by itself. -/
theorem isBounded_of_parse {f : Format} (alone : f.parseWithin = none) (whole : f.streams = false)
    (text : f.profile.family = .text) (reader : List Line → Run (List Event))
    (reads : ∀ content, f.parse content = reader (Line.read Line.defaultLimit content))
    (blind : ∀ lines, reader (lines.map Line.uncut) = reader lines) : f.IsBounded := by
  intro s content other agree
  have same : (Line.read Line.defaultLimit content).map Line.uncut =
      (Line.read Line.defaultLimit other).map Line.uncut := by
    simpa only [keptLimit, needsContext, alone, whole, Option.isSome_none, Bool.or_self,
      Bool.false_eq_true, if_false, Line.AgreeUnder] using agree
  simp only [run, alone, whole, text, Family.payload, Bool.false_and, Bool.false_eq_true, if_false,
    reads]
  rw [← blind, same, blind]

theorem pytest_isBounded : Pytest.format.IsBounded :=
  isBounded_of_parse rfl rfl rfl _ (fun _ => rfl) (LineReader.eventsFrom_uncut _ 1)

theorem flake8_isBounded : Flake8.format.IsBounded := by
  apply isBounded_of_parse rfl rfl rfl (fun lines => do
    let findings ← LineReader.events Flake8.parseLine lines
    return findings ++ [Flake8.summary findings])
  · intro content
    rfl
  · intro lines
    simp only [LineReader.events, LineReader.eventsFrom_uncut]

namespace CiJob

def Entry.uncut (e : Entry) : Entry := { e with line := e.line.uncut }

theorem outputUntilHeader_uncut (inGroup : Bool) (entries : List Entry) :
    outputUntilHeader inGroup (entries.map Entry.uncut) = outputUntilHeader inGroup entries := by
  induction entries generalizing inGroup with
  | nil => rfl
  | cons e rest ih =>
    simp only [List.map_cons, outputUntilHeader, Entry.uncut, Line.uncut_number, ih]

theorem steps_uncut (entries : List Entry) : steps (entries.map Entry.uncut) = steps entries := by
  induction entries with
  | nil => rfl
  | cons e rest ih =>
    simp only [List.map_cons, steps, Entry.uncut, Line.uncut_number, ih, outputUntilHeader_uncut]

theorem remarks_uncut (command : String) (entries : List Entry) :
    remarks command (entries.map Entry.uncut) = remarks command entries := by
  induction entries generalizing command with
  | nil => rfl
  | cons e rest ih =>
    have same (kind : Remark) (message : String) :
        remarkEvent command e.line.uncut kind message = remarkEvent command e.line kind message :=
      rfl
    simp only [List.map_cons, remarks, Entry.uncut, ih, same]

theorem entries_uncut {limit : Int} {content other : String}
    (agree : Line.AgreeUnder limit content other) :
    (entries limit content).map Entry.uncut = (entries limit other).map Entry.uncut := by
  have seen (log : String) : (entries limit log).map Entry.uncut =
      ((Line.read limit log).map Line.uncut).map Entry.of := by
    simp only [entries, List.map_map]
    rfl
  rw [seen, seen, agree]

theorem parse_congr {s : Surroundings} {content other : String}
    (agree : Line.AgreeUnder s.limit content other) : parse s content = parse s other := by
  have same := entries_uncut agree
  have first : steps (entries s.limit content) = steps (entries s.limit other) := by
    rw [← steps_uncut, same, steps_uncut]
  have second : remarks "" (entries s.limit content) = remarks "" (entries s.limit other) := by
    rw [← remarks_uncut, same, remarks_uncut]
  simp only [parse, first, second]

end CiJob

/-- The output of a step is made of lines of the log, whatever its own format does with it. -/
theorem ciJob_isBounded : CiJob.format.IsBounded := fun _ _ _ agree => CiJob.parse_congr agree

/-- Every format for text that is always known depends on a log only through its lines under the
limit that it keeps. -/
theorem builtins_isBounded [Host] {f : Format} (known : f ∈ builtins)
    (text : f.profile.family = .text) : f.IsBounded := by
  simp only [builtins, List.mem_cons, List.not_mem_nil, or_false] at known
  rcases known with rfl | rfl | rfl | rfl | rfl | rfl | rfl | rfl | rfl | rfl | rfl | rfl
  · exact ciJob_isBounded
  · cases text
  · cases text
  · exact compilerText_isBounded
  · exact flake8_isBounded
  · exact pytest_isBounded
  · exact isBounded_of_lineReader rfl
  · exact isBounded_of_lineReader rfl
  · exact isBounded_of_lineReader rfl
  · exact logRecord_isBounded
  · exact isBounded_of_lineReader rfl
  · exact anyLint_isBounded

/-- Formats that cut lines under the default limit, whatever limit the caller gives. -/
def selfLimited : List String := [Flake8.profile.format, Pytest.profile.format]

theorem keptLimit_builtins [Host] {f : Format} (known : f ∈ builtins)
    (text : f.profile.family = .text) (limit : Int) :
    f.keptLimit limit =
      if f.profile.format ∈ selfLimited then Line.defaultLimit else limit := by
  simp only [builtins, List.mem_cons, List.not_mem_nil, or_false] at known
  rcases known with rfl | rfl | rfl | rfl | rfl | rfl | rfl | rfl | rfl | rfl | rfl | rfl
  all_goals first | rfl | cases text

namespace AdHoc

theorem eventsFrom_uncut (p : Pattern) (keepUnread : Bool) (id : Int) (lines : List Line) :
    eventsFrom p keepUnread id (lines.map Line.uncut) = eventsFrom p keepUnread id lines := by
  induction lines generalizing id with
  | nil => rfl
  | cons line rest ih =>
    have found (captures : Attributes) (whole : String) :
        eventOf captures whole line.uncut id = eventOf captures whole line id := rfl
    have kept : unread line.uncut id = unread line id := rfl
    simp only [List.map_cons, eventsFrom, Line.uncut_text, ih, found, kept]

/-- A pattern sees the lines under the default limit. -/
theorem parse_congr [Host] {content other : String}
    (agree : Line.AgreeUnder Line.defaultLimit content other) (pattern : String)
    (keepUnread : Bool) : parse pattern keepUnread content = parse pattern keepUnread other := by
  have same (p : Pattern) : eventsFrom p keepUnread 1 (Line.read Line.defaultLimit content) =
      eventsFrom p keepUnread 1 (Line.read Line.defaultLimit other) := by
    rw [← eventsFrom_uncut, agree, eventsFrom_uncut]
  simp only [parse, same]

end AdHoc

end Format

end BuildLog
