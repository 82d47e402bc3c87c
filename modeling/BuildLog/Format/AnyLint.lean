import BuildLog.Diagnostic
import BuildLog.Format.Basic

/-! Diagnostics of any checker. A log without one is reported as clean. -/
namespace BuildLog.Format.AnyLint

def profile : Profile where
  format := "generic_lint"
  title := "Generic Lint"
  category := "linting_tool"
  description := "file:line[:column]: severity: message diagnostics from any linter"
  priority := 30
  tool := "generic_lint"

/-- A diagnostic is looked for in so many lines. -/
def sampleSize : Nat := 50

def accepts (content : String) : Run Bool := do
  ((Line.read Line.defaultLimit content).take sampleSize).anyM fun line =>
    return (← Run.ofNumber (Diagnostic.read? line.text)).isSome

def verdict (severity : String) : Verdict × String :=
  if severity == "error" then (.error, "lint_error")
  else if severity == "warning" then (.warning, "lint_warning")
  else (.info, "lint_info")

def parseLine : LineReader := fun line number id => do
  return (← Run.ofNumber (Diagnostic.read? line)).map fun d =>
    let (verdict, category) := verdict d.severity
    { (profile.event.withVerdict verdict).onLine number line with
      id
      category
      kind := .lintIssue
      file := d.location.file
      line := .int d.location.line
      column := .int d.location.column
      message := d.message }

def clean : Event :=
  { profile.event.withVerdict .info with
    id := 1
    kind := .summary
    message := "Generic lint output parsed (no issues found)" }

def parseLines (lines : List Line) : Run (List Event) := do
  let events ← LineReader.events parseLine lines
  return if events.isEmpty then [clean] else events

def format : Format := .ofLines profile accepts parseLine parseLines

end BuildLog.Format.AnyLint
