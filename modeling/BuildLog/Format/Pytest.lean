import BuildLog.Decimal.Reading
import BuildLog.Format.Basic
import BuildLog.Pattern.Search

/-! Verbose text output of pytest: one line for each test and a closing line with the totals. -/
namespace BuildLog.Format.Pytest

open Text
open Pattern (Node CharClass)

def profile : Profile where
  format := "pytest_text"
  title := "pytest"
  category := "test_framework"
  description := "pytest verbose (-v) text output"
  priority := 80
  aliases := ["pytest"]
  groups := ["python", "test"]
  tool := "pytest"
  commands :=
    [⟨"pytest", .literal⟩, ⟨"pytest %", .like⟩, ⟨"python -m pytest%", .like⟩, ⟨"py.test%", .like⟩]

/-- Outcomes of a test. -/
def outcomes : List (String × Verdict) :=
  [("PASSED", ⟨.pass, "info"⟩), ("FAILED", ⟨.fail, "error"⟩), ("ERROR", .error),
    ("SKIPPED", ⟨.skip, "info"⟩), ("XFAIL", ⟨.skip, "info"⟩), ("XPASS", ⟨.pass, "info"⟩)]

def wordEnd : Node := .anchor (.wordBoundary false)

def result : Pattern := .ofNode ["file", "test", "status"] <| .seq [
  .anchor .textStart,
  .group 1 (.cat
    (.many1 { items := [.category .blank false, .one ':'.toNat], negated := true })
    (.literal ".py")),
  .literal "::", .group 2 (.many1 .nonBlanks), .many1 .blanks,
  .group 3 (.literals (outcomes.map (·.1))), wordEnd]

def totals : Pattern := .ofNode ["body", "secs"] <| .seq [
  .anchor .textStart, .many1 (.char '='), .char ' ',
  .group 1 (.seq [.many .anyButLineFeed, wordEnd,
    .literals ["passed", "failed", "error", "skipped"], wordEnd,
    .run .lazy 0 none .anyButLineFeed]),
  .literal " in ",
  .group 2 (.many1 { items := [.category .digit false, .one '.'.toNat] }), .char 's']

def result? (line : String) : Option Pattern.Match := result.matchWithin Line.defaultLimit line

def accepts (content : String) : Run Bool :=
  return contains content "::" &&
    (Line.read Line.defaultLimit content).any fun line => (result? line.text).isSome

def ofResult (m : Pattern.Match) : Event :=
  let outcome := result.capture m "status"
  { profile.event.withVerdict ((outcomes.lookup outcome).getD .info) with
    category := "unit_test"
    kind := .testResult
    file := result.capture m "file"
    test := result.capture m "test"
    message := "Test " ++ lower outcome }

def ofTotals (m : Pattern.Match) : Event :=
  let body := totals.capture m "body"
  let failed := contains body "failed" || contains body "error"
  { profile.event.withVerdict (if failed then ⟨.fail, "error"⟩ else ⟨.pass, "info"⟩) with
    category := "test_summary"
    kind := .summary
    message := body
    seconds := (Decimal.floatPrefix (totals.capture m "secs").toList).getD 0 }

def parseLine : LineReader := fun line number id =>
  let event :=
    match result? line with
    | some m => some (ofResult m)
    | none => (totals.matchWithin Line.defaultLimit line).map ofTotals
  return event.map fun e => { e.onLine number line with id }

def format : Format where
  profile := profile
  accepts := accepts
  parse content := LineReader.events parseLine (Line.read Line.defaultLimit content)

end BuildLog.Format.Pytest
