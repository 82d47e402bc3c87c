import BuildLog.Format.Basic
import BuildLog.Pattern.Search
import BuildLog.Timestamp.Reading

/-! Records of a program's log, with or without a timestamp. Lines that are no record, such as
those of a stack trace, belong to the record above them. -/
namespace BuildLog.Format.LogRecord

open Text
open Pattern (Node CharClass)

variable [Host]

def profile : Profile where
  format := "python_logging"
  title := "Python logging"
  category := "app_logging"
  description := "Python logging module default and basicConfig formats"
  priority := 80
  groups := ["python", "logging"]
  tool := "python_logging"

def level : Node := .literals ["DEBUG", "INFO", "WARNING", "ERROR", "CRITICAL"]

def logger : Node := .many1 (.wordOr ".-")

def digits (n : Nat) : Node := .exactly n .digits

def stamp : Node := .seq [
  digits 4, .char '-', digits 2, .char '-', digits 2, .char ' ',
  digits 2, .char ':', digits 2, .char ':', digits 2,
  .optional (.cat (.one (.oneOf ",.")) (.many1 .digits))]

/-- A hyphen between blanks. -/
def separator : Node := .seq [.many1 .blanks, .char '-', .many1 .blanks]

def message (group : Nat) : Node :=
  .cat (.group group (.many .anyButLineFeed)) (.anchor .lastLineEnd)

def stamped : Pattern := .ofNode ["ts", "logger", "level", "msg"] <| .seq [
  .anchor .textStart, .group 1 stamp, separator, .group 2 logger, separator, .group 3 level,
  separator, message 4]

def plain : Pattern := .ofNode ["level", "logger", "msg"] <| .seq [
  .anchor .textStart, .group 1 level, .char ':', .group 2 logger, .char ':', message 3]

/-- The parts of a record. -/
def parts? (line : String) : Option Attributes :=
  match stamped.matchWithin Line.defaultLimit line with
  | some m => some (stamped.captures m)
  | none => (plain.matchWithin Line.defaultLimit line).map plain.captures

def accepts (content : String) : Run Bool :=
  return (Line.read Line.defaultLimit content).any fun line => (parts? line.text).isSome

def withPoint (stamp : String) : String := stamp.map fun c => if c == ',' then '.' else c

def parseLine : LineReader := fun line number id =>
  return (parts? line).map fun parts =>
    { (profile.event.withVerdict (.ofLevel (parts.get "level"))).onLine number line with
      id
      kind := .debugEvent
      message := stripped (parts.get "msg")
      origin := parts.get "logger"
      startedAt := Timestamp.iso (withPoint (parts.get "ts")) }

/-- A record with one more line. -/
def fold (e : Event) (line : Line) : Event :=
  { e with text := e.text ++ "\n" ++ line.text, lastLine := line.number }

/-- The records of lines that follow the record `open?`, if there is one. -/
def recordsFrom (open? : Option Event) (id : Int) : List Line → Run (List Event)
  | [] => pure open?.toList
  | line :: rest => do
    match ← parseLine line.text line.number id with
    | some e => return open?.toList ++ (← recordsFrom (some e) (id + 1) rest)
    | none =>
      if isBlankText line.text then recordsFrom open? id rest
      else recordsFrom (open?.map (fold · line)) id rest

def format : Format := .ofLines profile accepts parseLine (recordsFrom none 1)

end BuildLog.Format.LogRecord
