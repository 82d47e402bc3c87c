import BuildLog.Decimal.Reading
import BuildLog.Format.Basic
import BuildLog.Pattern.Search
import BuildLog.Timestamp.Reading

/-! Lines of a system log. A priority tells the severity; without one, words of the message do. -/
namespace BuildLog.Format.Syslog

open Text
open Pattern (Node CharClass)

variable [Host]

def profile : Profile where
  format := "syslog"
  title := "Syslog"
  category := "system_log"
  description := "BSD (RFC 3164) and ISO-timestamped syslog lines"
  priority := 80
  groups := ["logging", "system"]
  tool := "syslog"

/-- A month, a day and a time. -/
def shortStamp : Node := .seq [
  .exactly 3 .words, .many1 .blanks, .between 1 2 .digits, .one .blanks,
  .exactly 8 { items := [.category .digit false, .one ':'.toNat] }]

def isoStamp : Node := .seq [
  .exactly 4 .digits, .char '-', .exactly 2 .digits, .char '-', .exactly 2 .digits, .char 'T',
  .many1 { items := .category .digit false :: ":+-.Z".toList.map fun c => .one c.toNat }]

def entry : Pattern := .ofNode ["pri", "ts", "host", "tag", "msg"] <| .seq [
  .anchor .textStart,
  .optional (.seq [.char '<', .group 1 (.between 1 3 .digits), .char '>']),
  .group 2 (.alt shortStamp isoStamp), .many1 .blanks,
  .group 3 (.many1 .nonBlanks), .many1 .blanks,
  .group 4 (.many1 (.wordOr "-/[].")), .char ':', .many .blanks,
  .group 5 (.many .anyButLineFeed), .anchor .lastLineEnd]

/-- A tag with the number of a process. -/
def process : Pattern := .ofNode ["prog", "pid"] <| .seq [
  .anchor .textStart, .group 1 (.many1 (.noneOf "[")), .char '[', .group 2 (.many1 .digits),
  .char ']', .anchor .lastLineEnd]

/-- A text in any case, perhaps with an ending. -/
def stem (word : String) (endings : List String) : Node :=
  let word := .literalAnyCase word
  if endings.isEmpty then word
  else .cat word (.optional (.choice (endings.map .literalAnyCase)))

def anyWord (stems : List Node) : Pattern := .ofNode [] <| .seq [
  .anchor (.wordBoundary false), .choice stems, .anchor (.wordBoundary false)]

def errorWord : Pattern := anyWord [
  stem "fail" ["ed", "ure"], stem "error" [], stem "critical" [], stem "denied" [], stem "panic" []]

def warningWord : Pattern := anyWord [stem "warn" ["ing"], stem "deprecated" [], stem "timeout" []]

/-- The parts of a line. -/
def parts? (line : String) : Option Attributes :=
  (entry.matchWithin Line.defaultLimit line).map entry.captures

/-- The first line that is not blank decides. -/
def accepts (content : String) : Run Bool :=
  return match (Line.read Line.defaultLimit content).find? fun line => !isBlankText line.text with
    | some line => (parts? line.text).isSome
    | none => false

/-- The status of a priority, of which the last three bits are the severity. -/
def priorityStatus (priority : Int) : Status :=
  let severity := priority % 8
  if severity ≤ 3 then .error else if severity == 4 then .warning else .info

def messageStatus (message : String) : Status :=
  if errorWord.finds message then .error
  else if warningWord.finds message then .warning
  else .info

def status (parts : Attributes) : Run Status :=
  match parts.get? "pri" with
  | some digits => do
    return priorityStatus ((← Run.ofNumber (Decimal.boundedPrefix 32 digits.toList)).getD 0)
  | none => return messageStatus (parts.get "msg")

def parseLine : LineReader := fun line number id => do
  match parts? line with
  | none => return none
  | some parts =>
    let tag := parts.get "tag"
    let status ← status parts
    let owner : Attributes := ((process.matchStart tag).map process.captures).getD []
    let attributes : Attributes :=
      [("host", parts.get "host"), ("tag", tag)] ++
        (owner.get? "pid").toList.map fun pid => ("pid", pid)
    return some { profile.event.onLine number line with
      id
      kind := .debugEvent
      status := some status
      severity := some (lower status.name)
      message := parts.get "msg"
      origin := parts.get "host"
      scope := (owner.get? "prog").getD tag
      startedAt := Timestamp.iso (parts.get "ts")
      data := attributes.toValue.write .asciiOnly }

def format : Format := .ofLines profile accepts parseLine

end BuildLog.Format.Syslog
