import BuildLog.Format.Basic
import BuildLog.Text.Digits

/-! Logs of GitHub Actions jobs. A header begins a step and a group of lines that show how it is
run; behind the end of the group stands the step's output, up to the next header. The output is
read in the format that the step's command points at. -/
namespace BuildLog.Format.CiJob

open Text

def profile : Profile where
  format := "github_actions_text"
  title := "GitHub Actions"
  category := "ci_system"
  description := "GitHub Actions job log with per-step delegation to tool parsers"
  priority := 80
  aliases := ["github_actions", "gha"]
  groups := ["ci"]
  tool := "github_actions"

/-- The text after characters of the given shape, in which a zero stands for any digit. -/
def dropShape? : (shape cs : List Char) → Option (List Char)
  | [], cs => some cs
  | s :: shape, c :: cs =>
    if (if s == '0' then isDecimal c else c == s) then dropShape? shape cs else none
  | _ :: _, [] => none

/-- The text after a fraction of a second; a point without digits is none. -/
def dropFraction (cs : List Char) : List Char :=
  match cs with
  | '.' :: rest => if (rest.head?.map isDecimal).getD false then rest.dropWhile isDecimal else cs
  | _ => cs

/-- The line without the timestamp at its beginning. -/
def withoutTimestamp (line : String) : String :=
  let rest? := do
    let rest ← dropShape? "0000-00-00T00:00:00".toList line.toList
    dropStart? ['Z', ' '] (dropFraction rest)
  (rest?.map String.ofList).getD line

inductive Remark where
  | error
  | warning
  | notice
deriving DecidableEq

def Remark.mark : Remark → String
  | .error => "##[error]"
  | .warning => "##[warning]"
  | .notice => "##[notice]"

def Remark.verdict : Remark → Verdict
  | .error => .error
  | .warning => .warning
  | .notice => .info

/-- What a line without its timestamp is. -/
inductive Role where
  | header (command : String)
  | groupEnd
  | remark (kind : Remark) (message : String)
  | output
deriving DecidableEq

def headerMark : String := "##[group]Run "

def groupEndMark : String := "##[endgroup]"

def command? (cs : List Char) : Option String :=
  match dropStart? headerMark.toList cs with
  | none | some [] => none
  | some rest => some (String.ofList (trim rest))

def remark? (cs : List Char) : Option (Remark × String) :=
  [Remark.error, .warning, .notice].findSome? fun kind =>
    (dropStart? kind.mark.toList cs).map fun rest => (kind, String.ofList (trim rest))

def Role.of (line : String) : Role :=
  let cs := line.toList
  match command? cs with
  | some command => .header command
  | none =>
    if groupEndMark.toList.isPrefixOf cs then .groupEnd
    else
      match remark? cs with
      | some (kind, message) => .remark kind message
      | none => .output

/-- A line of the log with its text behind the timestamp. -/
structure Entry where
  line : Line
  text : String
  role : Role

def Entry.of (line : Line) : Entry :=
  let text := withoutTimestamp line.text
  ⟨line, text, .of text⟩

def entries (limit : Int) (content : String) : List Entry :=
  (Line.read limit content).map Entry.of

structure Step where
  command : String
  firstLine : Nat
  /-- The lines of output with their numbers in the log. -/
  output : List (Nat × String)

namespace Step

/-- The number in the log of a line of the output, counted from one. Other numbers stay. -/
def lineInLog (s : Step) (n : Int) : Int :=
  if n < 1 then n else ((s.output[n.toNat - 1]?).map fun (number, _) => (number : Int)).getD n

def lastLine (s : Step) : Nat := (s.output.getLast?.map (·.1)).getD s.firstLine

def text (s : Step) : String := joined "\n" (s.output.map (·.2))

end Step

/-- The output up to the next header. -/
def outputUntilHeader (inGroup : Bool) : List Entry → List (Nat × String)
  | [] => []
  | e :: rest =>
    match e.role with
    | .header _ => []
    | .groupEnd => outputUntilHeader false rest
    | .remark _ _ => outputUntilHeader inGroup rest
    | .output =>
      if inGroup then outputUntilHeader inGroup rest
      else (e.line.number, e.text) :: outputUntilHeader inGroup rest

def steps : List Entry → List Step
  | [] => []
  | e :: rest =>
    match e.role with
    | .header command => ⟨command, e.line.number, outputUntilHeader true rest⟩ :: steps rest
    | _ => steps rest

/-- The event of a remark in the step with the given command. -/
def remarkEvent (command : String) (line : Line) (kind : Remark) (message : String) : Event :=
  { (profile.event.withVerdict kind.verdict).onLine line.number line.text with
    kind := if kind == .error then .buildError else .lintIssue
    message
    scope := command }

/-- The events of remarks that follow a header with the given command. -/
def remarks (command : String) : List Entry → List Event
  | [] => []
  | e :: rest =>
    match e.role with
    | .header command => remarks command rest
    | .remark kind message =>
      remarkEvent command e.line kind message :: remarks command rest
    | _ => remarks command rest

/-- An event of a step's output, seen from the log. -/
def placed (s : Step) (e : Event) : Event :=
  { e with
    scope := if e.scope.isEmpty then s.command else e.scope
    firstLine := s.lineInLog e.firstLine
    lastLine := s.lineInLog e.lastLine }

/-- The events of a step's output in the format that its command points at; none if there is no
such format or if it gives up. -/
def delegated (byCommand : String → Run (Option Delegate)) (s : Step) : Run (List Event) := do
  if s.output.isEmpty then return []
  match ← byCommand s.command with
  | none => return []
  | some d => return (← (d.parse (d.family.payload s.text)).orElse []).map (placed s)

def isFailure (e : Event) : Bool := e.status == some .error || e.status == some .fail

def summary (s : Step) (events : List Event) : Event :=
  let verdict : Verdict := if events.any isFailure then ⟨.fail, "error"⟩ else ⟨.pass, "info"⟩
  { profile.event.withVerdict verdict with
    kind := .summary
    message := "Step: " ++ s.command
    scope := s.command
    firstLine := s.firstLine
    lastLine := s.lastLine }

def eventsOfStep (byCommand : Option (String → Run (Option Delegate))) (s : Step) :
    Run (List Event) := do
  let events ←
    match byCommand with
    | none => pure []
    | some byCommand => delegated byCommand s
  return events ++ [summary s events]

/-- Events stand in the order of their lines, a step's summary behind what else begins there. -/
def isBefore (a b : Event) : Bool :=
  a.firstLine < b.firstLine ||
    (a.firstLine == b.firstLine && (a.kind != .summary || b.kind == .summary))

def numbered (events : List Event) : List Event := events.mapIdx fun i e => { e with id := i + 1 }

def parse (s : Surroundings) (content : String) : Run (List Event) := do
  let entries := entries s.limit content
  let events ← (steps entries).flatMapM (eventsOfStep s.byCommand)
  return numbered ((events ++ remarks "" entries).mergeSort isBefore)

def accepts (content : String) : Run Bool :=
  return contains content headerMark ||
    (contains content Remark.error.mark && contains content groupEndMark)

def format : Format where
  profile := profile
  accepts := accepts
  parse := parse {}
  parseWithin := some parse

end BuildLog.Format.CiJob
