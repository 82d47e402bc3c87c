import BuildLog.Decimal.Reading
import BuildLog.Format.Basic
import BuildLog.Pattern.Compile

/-! Logs read with a single pattern that the caller gives, whose named groups tell the fields. -/
namespace BuildLog.Format.AdHoc

open Text

variable [Host]

def tool : String := "regexp"

/-- Names of groups, by what they tell; the first that took part with a text counts. -/
structure Names where
  severity : List String := ["severity", "level"]
  message : List String := ["message", "msg", "description", "text"]
  file : List String := ["file", "file_path", "path", "filename"]
  line : List String := ["line", "line_number", "lineno", "line_num"]
  column : List String := ["column", "col", "ref_column", "colno"]
  code : List String := ["code", "error_code", "rule", "rule_id"]
  category : List String := ["category", "type", "class"]
  test : List String := ["test_name", "test", "name"]
  suggestion : List String := ["suggestion", "fix", "hint"]
  tool : List String := ["tool", "tool_name"]

def names : Names := {}

def Names.all (n : Names) : List String :=
  n.severity ++ n.message ++ n.file ++ n.line ++ n.column ++ n.code ++ n.category ++ n.test ++
    n.suggestion ++ n.tool

/-- The verdict of a severity; without one a match is a warning. -/
def verdict (severity : String) : Verdict :=
  let s := lower severity
  if s.isEmpty then .warning
  else if ["error", "fatal", "fail", "failed"].contains s then .error
  else if ["warning", "warn"].contains s then .warning
  else if ["info", "note", "debug"].contains s then .info
  else ⟨.warning, s⟩

def textOr (text otherwise : String) : String := if text.isEmpty then otherwise else text

def number (text : String) (otherwise : Int) : Run Ordinal := do
  return .int ((← Run.ofNumber (Decimal.boundedPrefix 32 text.toList)).getD otherwise)

def eventOf (captures : Attributes) (whole : String) (line : Line) (id : Int) : Run Event := do
  let extras : Attributes := captures.filter fun (name, _) => !names.all.contains name
  let found := ({} : Event).withVerdict (verdict (captures.first names.severity))
  return { found.onLine line.number line.text with
    id
    tool := textOr (captures.first names.tool) tool
    category := textOr (captures.first names.category) "regexp_match"
    kind := .lintIssue
    file := captures.first names.file
    line := ← number (captures.first names.line) line.number
    column := ← number (captures.first names.column) (-1)
    message := textOr (captures.first names.message) whole
    code := captures.first names.code
    test := captures.first names.test
    suggestion := captures.first names.suggestion
    data := extras.line }

/-- A line that does not match, kept as it is. -/
def unread (line : Line) (id : Int) : Event :=
  { ({} : Event).onLine line.number line.text with
    id
    tool
    category := "unparsed"
    status := none
    severity := none
    message := line.text }

/-- The events of lines, numbered from `id` on. -/
def eventsFrom (p : Pattern) (keepUnread : Bool) (id : Int) : List Line → Run (List Event)
  | [] => return []
  | line :: rest => do
    match p.searchWithin Line.defaultLimit line.text with
    | some m =>
      let e ← eventOf (p.captures m) m.whole line id
      return e :: (← eventsFrom p keepUnread (id + 1) rest)
    | none =>
      if keepUnread && !isBlankText line.text then
        return unread line id :: (← eventsFrom p keepUnread (id + 1) rest)
      else eventsFrom p keepUnread id rest

/-- Said when no line matches. -/
def noMatch (pattern : String) (id : Int) : Event :=
  { id
    tool
    category := "regexp_summary"
    kind := .summary
    message := "No matches found for the provided pattern"
    text := pattern }

/-- Said when the pattern is faulty. -/
def rejected (pattern : String) (e : ConfigError) : Event :=
  { ({} : Event).withVerdict .error with
    id := 1
    tool
    category := "parse_error"
    kind := .summary
    message := e.message
    text := pattern }

/-- The pattern, or why it is faulty. -/
def compiled (pattern : String) : Run (Except ConfigError Pattern) := do
  match ← (Pattern.compile pattern).attempt with
  | .ok p => return .ok p
  | .error (.config e) => return .error e
  | .error e => throw e

def parse (pattern : String) (keepUnread : Bool) (content : String) : Run (List Event) := do
  match ← compiled pattern with
  | .error e => return [rejected pattern e]
  | .ok p =>
    let events ← eventsFrom p keepUnread 1 (Line.read Line.defaultLimit content)
    return if events.all (·.kind == .unknown) then events ++ [noMatch pattern (events.length + 1)]
      else events

def accepts (pattern : String) (content : String) : Run Bool := do
  match ← compiled pattern with
  | .error _ => return false
  | .ok p => return (Line.read Line.defaultLimit content).any fun line =>
      (p.searchWithin Line.defaultLimit line.text).isSome

def profile : Profile where
  format := "regexp"
  title := "Regexp"
  priority := 10
  isBuiltin := false

def format (pattern : String) (keepUnread : Bool) : Format where
  profile := profile
  accepts := accepts pattern
  parse := parse pattern keepUnread

end BuildLog.Format.AdHoc
