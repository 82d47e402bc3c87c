import BuildLog.Attributes
import BuildLog.Decimal.Reading
import BuildLog.Format.Basic
import BuildLog.Pattern.Search
import BuildLog.Timestamp.Reading

/-! Formats given by rules. The first rule whose pattern is found in a line makes an event of it;
the named groups of the pattern fill the event's fields. -/
namespace BuildLog

open Text

variable [Host]

/-- How a rule reads a line. -/
structure Rule where
  name : String
  pattern : Pattern
  kind : Kind
  /-- A severity that holds whatever the line says; empty if there is none. -/
  severity : String
  severities : Attributes
  statuses : List (String × Status)

/-- What a log must hold to be recognised. -/
structure Detection where
  anyOf : List String := []
  allOf : List String := []
  pattern : Option Pattern := none

structure RuleSet where
  profile : Profile
  rules : List Rule
  detection : Detection

namespace Detection

def isEmpty (d : Detection) : Bool := d.anyOf.isEmpty && d.allOf.isEmpty && d.pattern.isNone

/-- Without a demand nothing is recognised. -/
def accepts (d : Detection) (content : String) : Bool :=
  !d.isEmpty && (d.anyOf.isEmpty || d.anyOf.any (contains content)) &&
    d.allOf.all (contains content) && d.pattern.all (·.finds content)

end Detection

namespace Rule

/-- Fields that a named group can fill. -/
inductive Field where
  | message
  | file
  | line
  | column
  | code
  | function
  | test
  | suggestion
  | scope
  | group
  | unit
  | origin
  | principal
  | tool
  | startedAt
  | seconds
deriving DecidableEq

def fields : List (String × Field) :=
  [("message", .message), ("msg", .message),
    ("file", .file), ("file_path", .file), ("path", .file),
    ("line", .line), ("lineno", .line), ("line_number", .line),
    ("column", .column), ("col", .column),
    ("error_code", .code), ("code", .code), ("rule", .code),
    ("function_name", .function), ("func", .function), ("function", .function),
    ("test_name", .test), ("test", .test),
    ("suggestion", .suggestion), ("scope", .scope), ("group", .group), ("unit", .unit),
    ("origin", .origin), ("principal", .principal), ("tool", .tool),
    ("timestamp", .startedAt), ("duration", .seconds)]

def severityGroups : List String := ["severity", "level"]

def statusGroups : List String := ["status", "result"]

def number (text : String) (otherwise : Int) : Run Ordinal := do
  return .int ((← Run.ofNumber (Decimal.boundedPrefix 32 text.toList)).getD otherwise)

/-- The number at the beginning of a text; nothing and zero of either sign are zero. -/
def secondsOf (text : String) : Float :=
  match Decimal.floatPrefix text.toList with
  | some x => if x == 0 then 0 else x
  | none => 0

/-- An event with a field taken from a captured text. A line that is no number is that of the
log. -/
def fill (e : Event) (field : Field) (text : String) : Run Event :=
  match field with
  | .message => return { e with message := text }
  | .file => return { e with file := text }
  | .line => do return { e with line := ← number text e.firstLine }
  | .column => do return { e with column := ← number text (-1) }
  | .code => return { e with code := text }
  | .function => return { e with function := text }
  | .test => return { e with test := text }
  | .suggestion => return { e with suggestion := text }
  | .scope => return { e with scope := text }
  | .group => return { e with group := text }
  | .unit => return { e with unit := text }
  | .origin => return { e with origin := text }
  | .principal => return { e with principal := text }
  | .tool => return { e with tool := text }
  | .startedAt =>
    let iso := Timestamp.iso text
    return { e with startedAt := if iso.isEmpty then text else iso }
  | .seconds => return { e with seconds := secondsOf text }

/-- Fill the fields in the order of the groups. -/
def fillAll (e : Event) : Attributes → Run Event
  | [] => return e
  | (name, text) :: rest =>
    match fields.lookup name with
    | some field => do fillAll (← fill e field text) rest
    | none => fillAll e rest

/-- Captured texts that belong to no field. -/
def extras (captures : Attributes) : Attributes :=
  captures.filter fun (name, _) =>
    (fields.lookup name).isNone && !(severityGroups ++ statusGroups).contains name

/-- The text of the first of the given groups that took part, empty if none did. -/
def token (captures : Attributes) (groups : List String) : String :=
  (groups.findSome? captures.get?).getD ""

/-- What holds for a kind of event if nothing else tells. -/
def defaultVerdict (kind : Kind) (statusToken : String) : Verdict :=
  match kind with
  | .buildError => .error
  | .testResult => ((testStatus? statusToken).map fun s => ⟨s, s.severity⟩).getD .info
  | _ => .info

/-- The first of these that tells: the rule's statuses, its severities, its own severity, the
captured severity, the kind of event. -/
def verdict (r : Rule) (captures : Attributes) : Verdict :=
  let severity := token captures severityGroups
  let status := token captures statusGroups
  let mapped {α : Type} (entries : List (String × α)) (token : String) : Option α :=
    if token.isEmpty then none else entries.lookup token
  match mapped r.statuses status, mapped r.severities severity with
  | some s, _ => ⟨s, s.severity⟩
  | none, some s => ⟨statusOfSeverity s, s⟩
  | none, none =>
    if !r.severity.isEmpty then ⟨statusOfSeverity r.severity, r.severity⟩
    else if !severity.isEmpty then .ofSeverityWord severity
    else defaultVerdict r.kind status

/-- The event of a line in which the rule's pattern was found. -/
def eventOf (r : Rule) (profile : Profile) (m : Pattern.Match) (line : String) (number id : Int) :
    Run Event := do
  let captures := r.pattern.captures m
  let e ← fillAll ({ profile.event with id, kind := r.kind }.onLine number line) captures
  return { e.withVerdict (r.verdict captures) with
    message := if e.message.isEmpty then m.whole else e.message
    data := (extras captures).line }

end Rule

namespace RuleSet

/-- The first rule whose pattern is found, and where. -/
def firstMatch? (s : RuleSet) (line : String) : Option (Rule × Pattern.Match) :=
  s.rules.findSome? fun r => (r.pattern.searchWithin Line.defaultLimit line).map (r, ·)

def parseLine (s : RuleSet) : LineReader := fun line number id => do
  match s.firstMatch? line with
  | none => return none
  | some (r, m) => return some (← r.eventOf s.profile m line number id)

def format (s : RuleSet) : Format :=
  .ofLines s.profile (fun content => return s.detection.accepts content) s.parseLine

end RuleSet

end BuildLog
