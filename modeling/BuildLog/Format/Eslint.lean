import BuildLog.Format.Basic
import BuildLog.Json.Number

/-! JSON reports of ESLint: a list of files, each with its messages. -/
namespace BuildLog.Format.Eslint

open Text
open Json (Members Value)

variable [Host]

def profile : Profile where
  format := "eslint_json"
  title := "ESLint JSON"
  category := "linting_tool"
  description := "ESLint --format json report"
  priority := 100
  aliases := ["eslint"]
  groups := ["javascript", "lint"]
  family := .json
  tool := "eslint"
  commands := [⟨"eslint", .literal⟩, ⟨"eslint %", .like⟩, ⟨"npx eslint%", .like⟩]

def object? : Value → Option Members
  | .object members => some members
  | _ => none

/-- The files of a report. -/
def files? (content : String) : Run (Option (List Members)) := do
  return (← Run.readJson? content).bind (Value.list? object?)

def accepts (content : String) : Run Bool := do
  if contains content "\"filePath\"" && contains content "\"messages\"" then
    match ← files? content with
    | some (file :: _) => return file.has "filePath" && file.has "messages"
    | _ => return false
  else return false

/-- The text of a member, empty if it is missing. -/
def textOf (m : Members) (name : String) : String := ((m.get? name).map Value.text).getD ""

def givenText (m : Members) (name : String) : String := ((m.get? name).map Value.givenText).getD ""

/-- The messages of a file. What is no list has no messages, unless it cannot be gone through. -/
def messages (file : Members) : Run (List Members) :=
  match file.get? "messages" with
  | none => return []
  | some (.array items) => return items.filterMap object?
  | some v =>
    match v with
    | .bool _ | .int _ | .float _ => if v.isGiven then throw .messagesNotList else return []
    | _ => return []

/-- The description of the first suggestion. -/
def suggestion (message : Members) : String :=
  match message.get? "suggestions" with
  | some (.array (.object first :: _)) => textOf first "desc"
  | _ => ""

def verdict (isFatal : Bool) (severity : Option Int) : Verdict :=
  if isFatal || severity == some 2 then .error
  else if severity == some 1 then .warning
  else .info

def number? (message : Members) (name : String) : Run (Option Ordinal) :=
  Run.ofNumber ((message.get? name).getD .null).int32?

def eventOf (file : String) (message : Members) : Run Event := do
  let isFatal := ((message.get? "fatal").map Value.isGiven).getD false
  let severity ← number? message "severity"
  let line ← number? message "line"
  let column ← number? message "column"
  return { profile.event.withVerdict (verdict isFatal (severity.map Ordinal.toInt)) with
    category := if isFatal then "parse_error" else "lint"
    kind := .lintIssue
    file
    line := line.getD .none
    column := column.getD .none
    message := textOf message "message"
    code := givenText message "ruleId"
    suggestion := suggestion message
    text := (Value.object message).line }

def eventsOf (file : Members) : Run (List Event) := do
  (← messages file).mapM (eventOf (textOf file "filePath"))

def parse (content : String) : Run (List Event) := do
  match ← files? content with
  | none => return []
  | some files =>
    let events ← files.flatMapM eventsOf
    return events.mapIdx fun i e => { e with id := i + 1 }

def format : Format where
  profile := profile
  accepts := accepts
  parse := parse

end BuildLog.Format.Eslint
