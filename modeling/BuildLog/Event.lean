import BuildLog.Json.Value
import BuildLog.Level

/-! Events: what a log reports, in one form for all formats. -/
namespace BuildLog

inductive Kind where
  | buildError
  | lintIssue
  | testResult
  | typeError
  | securityFinding
  | memoryError
  | debugInfo
  | debugEvent
  | crashSignal
  | summary
  | performanceMetric
  | unknown
deriving DecidableEq, Repr

def Kind.all : List Kind :=
  [.buildError, .lintIssue, .testResult, .typeError, .securityFinding, .memoryError, .debugInfo,
    .debugEvent, .crashSignal, .summary, .performanceMetric, .unknown]

def Kind.name : Kind → String
  | .buildError => "build_error"
  | .lintIssue => "lint_issue"
  | .testResult => "test_result"
  | .typeError => "type_error"
  | .securityFinding => "security_finding"
  | .memoryError => "memory_error"
  | .debugInfo => "debug_info"
  | .debugEvent => "debug_event"
  | .crashSignal => "crash_signal"
  | .summary => "summary"
  | .performanceMetric => "performance_metric"
  | .unknown => "unknown"

/-- The kind with the given name in upper or in lower case. -/
def Kind.ofName? (s : String) : Option Kind :=
  let key := Text.stripped s
  let high := Text.upper key
  let low := Text.lower key
  Kind.all.find? fun k => high == k.name.toUpper || low == k.name

/-- A place in a source file. Reports in JSON may put a truth value where a number is due; it
is kept, and counts as one or zero. -/
inductive Ordinal where
  | int (n : Int)
  | flag (b : Bool)
deriving DecidableEq

def Ordinal.none : Ordinal := .int (-1)

def Ordinal.toInt : Ordinal → Int
  | .int n => n
  | .flag b => if b then 1 else 0

def Ordinal.toValue : Ordinal → Json.Value
  | .int n => .int n
  | .flag b => .bool b

/-- What is not known is empty, and -1 where a number stands. -/
structure Event where
  id : Int := 0
  tool : String := ""
  category : String := ""
  kind : Kind := .unknown
  status : Option Status := some .info
  severity : Option String := some "info"
  file : String := ""
  line : Ordinal := .none
  column : Ordinal := .none
  message : String := ""
  code : String := ""
  function : String := ""
  test : String := ""
  suggestion : String := ""
  scope : String := ""
  group : String := ""
  unit : String := ""
  origin : String := ""
  principal : String := ""
  startedAt : String := ""
  /-- The log text that the event was read from. -/
  text : String := ""
  firstLine : Int := -1
  lastLine : Int := -1
  /-- Further attributes, as a JSON text. -/
  data : String := ""
  seconds : Float := 0

def Event.withVerdict (e : Event) (v : Verdict) : Event :=
  { e with status := some v.status, severity := some v.severity }

/-- An event of one log line. -/
def Event.onLine (e : Event) (number : Int) (text : String) : Event :=
  { e with text := text, firstLine := number, lastLine := number }

def optionalText : Option String → Json.Value
  | some s => .string s
  | none => .null

/-- The fields of an event under their public names. -/
def Event.toValue (e : Event) : Json.Value :=
  .object [
    ("event_id", .int e.id),
    ("tool_name", .string e.tool),
    ("category", .string e.category),
    ("event_type", .string e.kind.name),
    ("status", optionalText (e.status.map Status.name)),
    ("severity", optionalText e.severity),
    ("ref_file", .string e.file),
    ("ref_line", e.line.toValue),
    ("ref_column", e.column.toValue),
    ("message", .string e.message),
    ("error_code", .string e.code),
    ("function_name", .string e.function),
    ("test_name", .string e.test),
    ("suggestion", .string e.suggestion),
    ("scope", .string e.scope),
    ("group", .string e.group),
    ("unit", .string e.unit),
    ("origin", .string e.origin),
    ("principal", .string e.principal),
    ("started_at", .string e.startedAt),
    ("log_content", .string e.text),
    ("log_line_start", .int e.firstLine),
    ("log_line_end", .int e.lastLine),
    ("structured_data", .string e.data),
    ("execution_time", .float e.seconds)]

end BuildLog
