import BuildLog.Decimal.Reading
import BuildLog.Format.Basic
import BuildLog.Text.Search
import BuildLog.Xml.Document

/-! XML reports of tests in the form of JUnit. -/
namespace BuildLog.Format.Junit

open Text
open Xml (Element)

def profile : Profile where
  format := "junit_xml"
  title := "JUnit XML"
  category := "test_framework"
  description := "JUnit / xUnit XML test reports (pytest --junitxml, surefire, ...)"
  priority := 100
  aliases := ["junit", "xunit"]
  groups := ["test"]
  extension := ".xml"
  family := .xml
  tool := "junit"

/-- The marks are looked for in so many characters. -/
def headLength : Nat := 4096

def accepts (content : String) : Run Bool :=
  return contains (take headLength content) "<testsuite"

/-- Children of a test that tell how it ended, the most telling first. -/
def outcomes : List (String × Verdict) :=
  [("failure", ⟨.fail, "error"⟩), ("error", .error), ("skipped", ⟨.skip, "info"⟩)]

structure Outcome where
  verdict : Verdict
  message : String
  detail : String

def Outcome.passed : Outcome := ⟨⟨.pass, "info"⟩, "Test passed", ""⟩

def outcome (test : Element) : Outcome :=
  (outcomes.findSome? fun (name, verdict) => (test.child? name).map fun e =>
    let message := e.attributes.get "message"
    ⟨verdict, if message.isEmpty then "Test " ++ name else message, stripped e.text⟩).getD .passed

def eventOf (test : Element) : Run Event := do
  let group := test.attributes.get "classname"
  let name := test.attributes.get "name"
  let o := outcome test
  let line ← Run.ofNumber (Decimal.boundedPrefix 32 (test.attributes.get "line").toList)
  return { profile.event.withVerdict o.verdict with
    category := "unit_test"
    kind := .testResult
    file := test.attributes.get "file"
    line := .int (line.getD (-1))
    test := if group.isEmpty then name else s!"{group}.{name}"
    message := o.message
    group
    seconds := (Decimal.floatPrefix (test.attributes.get "time").toList).getD 0
    text := o.detail }

def parse (content : String) : Run (List Event) := do
  match Xml.read? (stripped content) with
  | none => return []
  | some root =>
    let events ← (root.all.filter (·.name == "testcase")).mapM eventOf
    return events.mapIdx fun i e => { e with id := i + 1 }

def format : Format where
  profile := profile
  accepts := accepts
  parse := parse

end BuildLog.Format.Junit
