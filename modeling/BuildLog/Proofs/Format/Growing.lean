import BuildLog.Proofs.Format.Faults
import BuildLog.Proofs.Format.Findings
import BuildLog.Proofs.Line.Reading

/-! Logs that grow. Behind the end of a line the lines of a log do not depend on those before, and
formats that look at one line at a time make the same events of them. Only the numbers of lines and
of events go on from what was read already. -/
namespace BuildLog

open Text

/-- The event in a log with so many events and so many lines before it. -/
def Event.behind (events lines : Nat) (e : Event) : Event :=
  { e with
    id := e.id + events
    firstLine := e.firstLine + lines
    lastLine := e.lastLine + lines }

namespace Line

def behind (lines : Nat) (line : Line) : Line := { line with number := line.number + lines }

@[simp] theorem behind_text (lines : Nat) (line : Line) : (line.behind lines).text = line.text :=
  rfl

@[simp] theorem behind_number (lines : Nat) (line : Line) :
    (line.behind lines).number = line.number + lines := rfl

theorem capped_behind (limit number lines : Nat) (cs : List Char) :
    capped limit (number + lines) cs = (capped limit number cs).behind lines := by
  unfold capped
  split <;> rfl

/-- No line of the text is left open. -/
def IsClosed (s : String) : Prop := s = "" ∨ ∃ before, s = before ++ "\n"

def EndsInFeed (cs : List Char) : Prop := ∀ c ∈ cs.getLast?, c = '\n'

theorem IsClosed.endsInFeed {s : String} (closed : IsClosed s) : EndsInFeed s.toList := by
  rcases closed with rfl | ⟨before, rfl⟩
  · simp [EndsInFeed]
  · simp [EndsInFeed]

variable {u ending rest : List Char}

theorem EndsInFeed.of_append {cs : List Char} (closed : EndsInFeed (cs ++ rest)) :
    EndsInFeed rest := by
  intro c last
  apply closed
  rw [List.getLast?_append, Option.mem_def.mp last]
  rfl

/-- A line without terminator leaves the text open unless it is empty. -/
theorem EndsInFeed.eq_nil (closed : EndsInFeed u) (unbroken : IsUnbroken u) : u = [] := by
  by_contra filled
  obtain ⟨c, last⟩ := Option.ne_none_iff_exists'.mp (mt List.getLast?_eq_none_iff.mp filled)
  exact (unbroken c (List.mem_of_getLast? last)).2 (closed c last)

/-- A carriage return with nothing behind it would become another terminator. -/
theorem Terminates.append (ends : Terminates ending rest) (closed : EndsInFeed (ending ++ rest))
    (later : List Char) : Terminates ending (rest ++ later) := by
  cases ends with
  | feed => exact .feed
  | both => exact .both
  | back single =>
    refine .back fun tail same => ?_
    cases rest with
    | nil => exact absurd (closed '\r' rfl) (by decide)
    | cons c rest => exact single rest (by rw [(List.cons.inj same).1])

theorem split_append {cs : List Char} (closed : EndsInFeed cs) (later : List Char) :
    split (cs ++ later) = split cs ++ split later := by
  induction cs using induction_lines with
  | last u unbroken =>
    rw [closed.eq_nil unbroken]
    rfl
  | line u ending rest unbroken ends ih =>
    have behind : EndsInFeed (ending ++ rest) := closed.of_append
    rw [List.append_assoc, List.append_assoc,
      split_append_ending unbroken (ends.append behind later), split_append_ending unbroken ends,
      ih behind.of_append, List.cons_append]

/-- A carriage return at the end leaves it open whether another line begins behind it. -/
example : split "a\r\nb".toList = ["a".toList, "b".toList] ∧
    split "a\r".toList ++ split "\nb".toList = ["a".toList, [], "b".toList] := by decide

/-- A text that is closed keeps its lines, and what is written behind it has its own. -/
theorem read_append (limit : Int) {s : String} (closed : IsClosed s) (later : String) :
    read limit (s ++ later) =
      read limit s ++ (read limit later).map (behind (read limit s).length) := by
  have length : (read limit s).length = (split s.toList).length := by simp [read]
  have moved : ((split later.toList).mapIdx fun i cs =>
        capped (effectiveLimit limit) (i + (split s.toList).length + 1) cs) =
      (read limit later).map (behind (read limit s).length) := by
    apply List.ext_getElem?
    intro i
    rw [List.getElem?_mapIdx, List.getElem?_map, getElem?_read, Option.map_map, length]
    congr 1
    funext cs
    rw [Function.comp, Nat.add_right_comm, capped_behind]
  rw [← moved, read, String.toList_append, split_append closed.endsInFeed, List.mapIdx_append, read]

end Line

namespace LineReader

variable {read : LineReader}

theorem eventsFrom_append (read : LineReader) (id : Int) (lines later : List Line) :
    read.eventsFrom id (lines ++ later) = do
      let first ← read.eventsFrom id lines
      let rest ← read.eventsFrom (id + first.length) later
      return first ++ rest := by
  induction lines generalizing id with
  | nil => simp [eventsFrom]
  | cons line lines ih =>
    simp only [List.cons_append, eventsFrom, bind_assoc]
    congr 1
    funext event?
    cases event? with
    | none => exact ih id
    | some e =>
      -- the event has taken a number, so what follows is numbered from the next one on
      simp only [ih, bind_assoc, pure_bind, List.length_cons, List.cons_append]
      congr 1
      funext first
      have next : id + 1 + (first.length : Int) = id + ((first.length + 1 : Nat) : Int) := by omega
      rw [next]

/-- The event of a line tells its number and that of the line, and depends on them in nothing
else. -/
def IsMovable (read : LineReader) : Prop :=
  ∀ (text : String) (number id : Int) (events lines : Nat),
    read text (number + lines) (id + events) =
      Option.map (Event.behind events lines) <$> read text number id

theorem IsMovable.eventsFrom_behind (movable : read.IsMovable) (events lines : Nat) (id : Int)
    (those : List Line) :
    read.eventsFrom (id + events) (those.map (Line.behind lines)) =
      List.map (Event.behind events lines) <$> read.eventsFrom id those := by
  induction those generalizing id with
  | nil => rfl
  | cons line those ih =>
    have place : ((line.number + lines : Nat) : Int) = line.number + lines := by omega
    simp only [List.map_cons, eventsFrom, Line.behind_text, Line.behind_number, place,
      movable line.text line.number id, bind_map_left, map_bind]
    congr 1
    funext event?
    cases event? with
    | none => exact ih id
    | some e =>
      have next : id + (events : Int) + 1 = id + 1 + events := by omega
      simp only [Option.map_some, next, ih, bind_map_left, map_bind, map_pure, List.map_cons]

theorem IsMovable.events_append (movable : read.IsMovable) (limit : Int) {s : String}
    (closed : Line.IsClosed s) (later : String) :
    read.events (Line.read limit (s ++ later)) = do
      let first ← read.events (Line.read limit s)
      let rest ← read.events (Line.read limit later)
      return first ++ rest.map (Event.behind first.length (Line.read limit s).length) := by
  simp only [events, Line.read_append limit closed, eventsFrom_append, movable.eventsFrom_behind,
    bind_map_left]

end LineReader

namespace Format

theorem prefixed_isMovable : LineReader.IsMovable Prefixed.parseLine := by
  intro text number id events lines
  simp only [Prefixed.parseLine, map_pure, Option.map_map]
  rfl

theorem logfmt_isMovable [Host] : LineReader.IsMovable Logfmt.parseLine := by
  intro text number id events lines
  simp only [Logfmt.parseLine, map_pure]
  split
  · rfl
  · simp only [Option.map_some, Event.behind, Event.onLine]

theorem syslog_isMovable [Host] : LineReader.IsMovable Syslog.parseLine := by
  intro text number id events lines
  unfold Syslog.parseLine
  cases Syslog.parts? text with
  | none => rfl
  | some parts => simp only [map_bind, map_pure, Option.map_some, Event.behind, Event.onLine]

theorem jsonLines_isMovable [Host] : LineReader.IsMovable JsonLines.parseLine := by
  intro text number id events lines
  unfold JsonLines.parseLine
  dsimp only
  split
  · rfl
  · simp only [map_bind, map_pure, Option.map_map, Function.comp_def, Event.behind, Event.onLine]

/-- The format reads JSON from the lines of a log, and this one is nested too deep. -/
def GivesUpOn [Host] (f : Format) (line : Line) : Prop :=
  f.profile.format = JsonLines.profile.format ∧ Json.read (stripped line.text) = .error .tooDeep

/-- The format looks at one line at a time, under the limit that it is given or the default one. -/
structure ReadsByLine [Host] (f : Format) : Prop where
  movable : f.parseLine.IsMovable
  fails : ∀ (line : Line) (id : Int),
    (f.parseLine line.text line.number id).FailsIff (f.GivesUpOn line)
  parse : ∀ content, f.parse content = f.parseLine.events (Line.read Line.defaultLimit content)
  run : ∀ (s : Surroundings) (content : String),
    f.run s content = f.parseLine.events (Line.read s.limit content)

section Lines

variable {profile : Profile} {accepts : String → Run Bool} {read : LineReader}

theorem ofLines_readsByLine [Host] (text : profile.family = .text) (movable : read.IsMovable)
    (fails : ∀ (line : Line) (id : Int),
      (read line.text line.number id).FailsIff ((ofLines profile accepts read).GivesUpOn line)) :
    (ofLines profile accepts read).ReadsByLine where
  movable := movable
  fails := fails
  parse _ := rfl
  run := ofLines_run text

theorem readsByLine_of_answers [Host] (text : profile.family = .text)
    (other : profile.format ≠ JsonLines.profile.format) (movable : read.IsMovable)
    (answers : ∀ (line : Line) (id : Int), (read line.text line.number id).Answers) :
    (ofLines profile accepts read).ReadsByLine :=
  ofLines_readsByLine text movable fun line id => .of_answers (answers line id) fun deep =>
    other deep.1

end Lines

theorem jsonLines_readsByLine [Host] : JsonLines.format.ReadsByLine := by
  refine ofLines_readsByLine rfl jsonLines_isMovable fun line id => ?_
  exact (JsonLines.parseLine_failsIff line.text line.number id).congr (and_iff_right rfl).symm

theorem logfmt_readsByLine [Host] : Logfmt.format.ReadsByLine :=
  readsByLine_of_answers rfl (by decide) logfmt_isMovable fun _ _ => Run.answers_pure _

theorem syslog_readsByLine [Host] : Syslog.format.ReadsByLine :=
  readsByLine_of_answers rfl (by decide) syslog_isMovable Syslog.parseLine_readsWhere.answers

theorem prefixed_readsByLine [Host] : Prefixed.format.ReadsByLine :=
  readsByLine_of_answers rfl (by decide) prefixed_isMovable fun _ _ => Run.answers_pure _

/-- Formats that make at most one event of a line and look at no other line for it. -/
def lineByLine [Host] : List Format :=
  [JsonLines.format, Logfmt.format, Syslog.format, Prefixed.format]

theorem lineByLine_readsByLine [Host] {f : Format} (known : f ∈ lineByLine) : f.ReadsByLine := by
  simp only [lineByLine, List.mem_cons, List.not_mem_nil, or_false] at known
  rcases known with rfl | rfl | rfl | rfl
  · exact jsonLines_readsByLine
  · exact logfmt_readsByLine
  · exact syslog_readsByLine
  · exact prefixed_readsByLine

/-- A text that leaves no line open and one behind it are read together as each of them alone: the
events of the first, then those of the second, with their own numbers and those of their lines
counted on. Nothing else is given up on than a line that the format cannot read. -/
structure ReadsInPieces [Host] (f : Format) (limit : Int)
    (read : String → Run (List Event)) : Prop where
  append : ∀ content later : String, Line.IsClosed content →
    read (content ++ later) = do
      let first ← read content
      let rest ← read later
      return first ++ rest.map (Event.behind first.length (Line.read limit content).length)
  fails : ∀ content, (read content).FailsIff (∃ line ∈ Line.read limit content, f.GivesUpOn line)

theorem ReadsByLine.readsInPieces [Host] {f : Format} (reads : f.ReadsByLine) (limit : Int) :
    f.ReadsInPieces limit fun content => f.parseLine.events (Line.read limit content) where
  append _ later closed := reads.movable.events_append limit closed later
  fails _ := LineReader.eventsFrom_failsIff reads.fails 1 _

/-- Logs of JSON records, of pairs, of a system and of lines that begin with a word for their
severity may be read in pieces, under every limit. -/
theorem lineByLine_readsInPieces [Host] {f : Format} (known : f ∈ lineByLine) :
    f.ReadsInPieces Line.defaultLimit f.parse ∧
      ∀ s : Surroundings, f.ReadsInPieces s.limit (f.run s) := by
  have reads := lineByLine_readsByLine known
  constructor
  · rw [funext reads.parse]
    exact reads.readsInPieces Line.defaultLimit
  · intro s
    rw [funext (reads.run s)]
    exact reads.readsInPieces s.limit

/-- Three lines in the first piece and two in the second, ended in different ways. -/
theorem lineByLine_readsInPieces_mixed :
    Prefixed.format ∈ lineByLine ∧ Line.IsClosed "error: a\r\n\rb\n" ∧
      ∃ first rest : List Event,
        Prefixed.format.parse "error: a\r\n\rb\n" = pure first ∧
        Prefixed.format.parse "\nwarning: c" = pure rest ∧
        first.map (·.firstLine) = [1] ∧ rest.map (·.firstLine) = [2] ∧
        Prefixed.format.parse ("error: a\r\n\rb\n" ++ "\nwarning: c") =
          pure (first ++ rest.map (Event.behind 1 3)) := by
  have known : Prefixed.format ∈ lineByLine := by simp [lineByLine]
  have closed : Line.IsClosed "error: a\r\n\rb\n" := .inr ⟨"error: a\r\n\rb", rfl⟩
  obtain ⟨first, one, place⟩ : ∃ first, Prefixed.format.parse "error: a\r\n\rb\n" = pure first ∧
      first.map (·.firstLine) = [1] := by
    refine ⟨_, rfl, ?_⟩
    rfl
  obtain ⟨rest, other, placed⟩ : ∃ rest, Prefixed.format.parse "\nwarning: c" = pure rest ∧
      rest.map (·.firstLine) = [2] := by
    refine ⟨_, rfl, ?_⟩
    rfl
  have single : first.length = 1 := by simpa using congrArg List.length place
  have lines : (Line.read Line.defaultLimit "error: a\r\n\rb\n").length = 3 := by decide
  refine ⟨known, closed, first, rest, one, other, place, placed, ?_⟩
  rw [(lineByLine_readsInPieces known).1.append _ _ closed, one, pure_bind, other, pure_bind,
    single, lines]

end Format

end BuildLog
