import BuildLog.Decimal.Reading
import BuildLog.Format.Basic
import BuildLog.Pattern.Search

/-! Text reports of flake8 and the checkers it runs. -/
namespace BuildLog.Format.Flake8

open Text
open Pattern (Node CharClass)

def profile : Profile where
  format := "flake8_text"
  title := "Flake8"
  category := "linting_tool"
  description := "flake8 / pycodestyle / pyflakes text report"
  priority := 80
  aliases := ["flake8"]
  groups := ["python", "lint"]
  tool := "flake8"
  commands := [⟨"flake8", .literal⟩, ⟨"flake8 %", .like⟩, ⟨"python -m flake8%", .like⟩]

/-- A colon, a number and a colon. -/
def colonNumber : Node := .seq [.char ':', .many1 .digits]

def atLeastThreeDigits : Node := .run .greedy 3 none .digits

/-- A location and a code, anywhere in a log. -/
def mention : Pattern := .ofNode [] <| .seq [
  .literal ".py", colonNumber, colonNumber, .char ':', .many .blanks, .one (.oneOf "FEWC"),
  atLeastThreeDigits]

def finding : Pattern := .ofNode ["file", "line", "col", "code", "msg"] <| .seq [
  .anchor .textStart,
  .group 1 (.cat (.run .lazy 1 none .anyButLineFeed) (.literal ".py")),
  .char ':', .group 2 (.many1 .digits),
  .char ':', .group 3 (.many1 .digits),
  .char ':', .many .blanks,
  .group 4 (.cat (.many1 (.ranges [('A', 'Z')])) atLeastThreeDigits),
  .many1 .blanks, .group 5 (.many .anyButLineFeed), .anchor .lastLineEnd]

/-- A positive number of at most 32 bits. -/
def ordinal (digits : String) : Except Decimal.Error Ordinal :=
  (Decimal.boundedPrefix 32 digits.toList).map fun n => .int ((n.filter (· != 0)).getD (-1))

/-- The kind, the verdict and the category that the first letter of a code tells. -/
def classify (code : String) : Kind × Verdict × String :=
  if startsWith code "F" then (.buildError, .error, "error")
  else if startsWith code "E" then (.lintIssue, .error, "style")
  else
    (.lintIssue, .warning, if startsWith code "W" || startsWith code "C" then "style" else "error")

def parseLine : LineReader := fun line number id => do
  match finding.matchWithin Line.defaultLimit line with
  | none => return none
  | some m =>
    let code := finding.capture m "code"
    let (kind, verdict, category) := classify code
    return some { (profile.event.withVerdict verdict).onLine number line with
      id
      kind
      category
      file := finding.capture m "file"
      line := ← Run.ofNumber (ordinal (finding.capture m "line"))
      column := ← Run.ofNumber (ordinal (finding.capture m "col"))
      message := stripped (finding.capture m "msg")
      code }

def summary (findings : List Event) : Event :=
  let errors := findings.countP (·.status == some .error)
  let warnings := findings.length - errors
  { profile.event with
    id := findings.length + 1
    category := "summary"
    kind := .summary
    status := some (if findings.isEmpty then .pass else .fail)
    severity := some (if errors != 0 then "error" else if warnings != 0 then "warning" else "info")
    message := s!"Flake8 found {errors} errors and {warnings} warnings" }

def parse (content : String) : Run (List Event) := do
  let findings ← LineReader.events parseLine (Line.read Line.defaultLimit content)
  return findings ++ [summary findings]

def format : Format where
  profile := profile
  accepts content := return mention.finds content
  parse := parse

end BuildLog.Format.Flake8
