import BuildLog.Command
import BuildLog.Event
import BuildLog.Fault
import BuildLog.Line
import BuildLog.Payload

/-! Formats: what is told about one, how it knows its logs, and how it reads events from them. -/
namespace BuildLog

structure Profile where
  format : String
  /-- Shown to people; the format's name if empty. -/
  title : String := ""
  category : String := "tool_output"
  description : String := ""
  priority : Int := 50
  aliases : List String := []
  groups : List String := []
  /-- Files of the format end so. -/
  extension : String := ""
  commands : List CommandPattern := []
  family : Family := .text
  isBuiltin : Bool := true
  /-- The tool that events name. -/
  tool : String := ""

namespace Profile

def shownTitle (p : Profile) : String := if p.title.isEmpty then p.format else p.title

def toolName (p : Profile) : String := if p.tool.isEmpty then p.shownTitle else p.tool

/-- The names by which a format is looked up. -/
def keys (p : Profile) : List String := p.format :: p.aliases

/-- An event of which nothing but its source is known. -/
def event (p : Profile) : Event := { tool := p.toolName, category := p.category }

end Profile

/-- A format as another format sees it. -/
structure Delegate where
  family : Family
  parse : String → Run (List Event)

/-- What a format may see besides the log: the limit of a line's length, and the format that a
command points at. -/
structure Surroundings where
  limit : Int := Line.defaultLimit
  byCommand : Option (String → Run (Option Delegate)) := none

/-- Reads a line into an event, given the line's number and the number of the event. -/
abbrev LineReader := String → Int → Int → Run (Option Event)

structure Format where
  profile : Profile
  accepts : String → Run Bool
  parse : String → Run (List Event)
  parseLine : LineReader := fun _ _ _ => pure none
  parseLines : List Line → Run (List Event) := fun _ => pure []
  /-- Reading a log in its surroundings, for formats that look beyond it. -/
  parseWithin : Option (Surroundings → String → Run (List Event)) := none
  /-- The log may be read line by line under the caller's limit. -/
  streams : Bool := false
  /-- A file may be read without being taken as a whole. -/
  streamsFiles : Bool := streams

namespace LineReader

/-- The events of lines, numbered from `id` on. -/
def eventsFrom (read : LineReader) (id : Int) : List Line → Run (List Event)
  | [] => pure []
  | line :: rest => do
    match ← read line.text line.number id with
    | none => read.eventsFrom id rest
    | some e => return e :: (← read.eventsFrom (id + 1) rest)

def events (read : LineReader) (lines : List Line) : Run (List Event) := read.eventsFrom 1 lines

end LineReader

namespace Format

/-- A format that reads the lines of a log under the default limit unless told otherwise. -/
def ofLines (profile : Profile) (accepts : String → Run Bool) (parseLine : LineReader)
    (parseLines : List Line → Run (List Event) := parseLine.events) : Format where
  profile := profile
  accepts := accepts
  parse content := parseLines (Line.read Line.defaultLimit content)
  parseLine := parseLine
  parseLines := parseLines
  streams := true

def needsContext (f : Format) : Bool := f.parseWithin.isSome

def delegate (f : Format) : Delegate := ⟨f.profile.family, f.parse⟩

/-- Whether the format accepts its part of a log. -/
def acceptsLog (f : Format) (content : String) : Run Bool :=
  f.accepts (f.profile.family.payload content)

/-- The events of a log. -/
def run (f : Format) (s : Surroundings) (content : String) : Run (List Event) :=
  let payload := f.profile.family.payload content
  match f.parseWithin with
  | some parse => parse s payload
  | none =>
    if f.streams && f.profile.family == .text then f.parseLines (Line.read s.limit payload)
    else f.parse payload

end Format

end BuildLog
