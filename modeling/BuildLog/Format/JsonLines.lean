import BuildLog.Format.Basic
import BuildLog.Json.Display
import BuildLog.Timestamp.Reading

/-! Log records that are JSON objects, one on each line. -/
namespace BuildLog.Format.JsonLines

open Text
open Json (Members Value)

variable [Host]

def profile : Profile where
  format := "jsonl"
  title := "JSON Lines"
  category := "structured_log"
  description := "Newline-delimited JSON log records"
  priority := 80
  aliases := ["ndjson", "json_lines"]
  groups := ["logging", "structured"]
  tool := "jsonl"

def timeNames : List String := ["ts", "time", "timestamp", "@timestamp"]

def levelNames : List String := ["level", "lvl", "severity", "log.level"]

def messageNames : List String := ["msg", "message", "event"]

/-- Members that are no further attributes of a record. -/
def knownNames : List String :=
  timeNames ++ levelNames ++ messageNames ++ ["logger", "caller", "file", "line"]

/-- The text of a member that is neither null nor the empty text. -/
def memberText? (record : Members) (name : String) : Option String :=
  match record.get? name with
  | none | some .null => none
  | some v => if v.text.isEmpty then none else some v.text

def firstText (record : Members) (names : List String) : String :=
  (names.findSome? (memberText? record)).getD ""

/-- The text of the first member that counts as given. -/
def firstGiven (record : Members) (names : List String) : String :=
  ((names.filterMap record.get?).find? Value.isGiven).elim "" Value.text

def record? (line : String) : Run (Option Members) := do
  match ← Run.readJson? line with
  | some (.object members) => return some members
  | _ => return none

/-- So many records decide. -/
def sampleSize : Nat := 3

def isRecord (line : String) : Run Bool := do
  if startsWith line "\x7b" then return (← record? line).isSome else return false

def accepts (content : String) : Run Bool := do
  let lines := (Line.read Line.defaultLimit content).map fun line => stripped line.text
  let sample := (lines.filter (!·.isEmpty)).take sampleSize
  if sample.isEmpty then return false else sample.allM isRecord

/-- A record without a message shows so many characters of its line. -/
def shownLength : Nat := 500

def eventOf (record : Members) (line : String) : Event :=
  let attributes := record.filter fun m => !knownNames.contains m.1
  let message := firstText record messageNames
  { profile.event.withVerdict (.ofLevel (firstText record levelNames)) with
    kind := .debugEvent
    message := if message.isEmpty then take shownLength line else message
    origin := firstGiven record ["logger", "caller"]
    file := firstGiven record ["file"]
    startedAt := Timestamp.iso (firstText record timeNames)
    data := if attributes.isEmpty then "" else (Value.object attributes).line }

def parseLine : LineReader := fun line number id => do
  let line := stripped line
  if line.isEmpty then return none
  return (← record? line).map fun record => { (eventOf record line).onLine number line with id }

def format : Format := .ofLines profile accepts parseLine

end BuildLog.Format.JsonLines
