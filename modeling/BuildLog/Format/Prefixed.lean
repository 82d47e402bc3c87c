import BuildLog.Format.Basic

/-! Lines that begin with a word for their severity, whatever tool wrote them. -/
namespace BuildLog.Format.Prefixed

open Text

def profile : Profile where
  format := "generic_error"
  title := "Generic Error"
  description := "Lines starting with error:, [ERROR], FAIL:, warning:, [INFO] and similar"
  priority := 10
  tool := "generic"

def errorWords : List String :=
  ["error:", "error :", "[error]", "[fail]", "[failed]", "fail:", "failed:", "fatal:", "[fatal]",
    "critical:", "[critical]", "exception:"]

def warningWords : List String :=
  ["warning:", "warning :", "[warning]", "[warn]", "warn:", "deprecated:", "[deprecated]"]

def infoWords : List String := ["[info]", "info:", "[notice]", "notice:"]

/-- The verdict and the category of a line by its first word, in any case. -/
def classify? (line : String) : Option (Verdict × String) :=
  let s := lower (strippedStart line)
  if errorWords.any (startsWith s) then some (.error, "generic_error")
  else if warningWords.any (startsWith s) then some (.warning, "generic_warning")
  else if infoWords.any (startsWith s) then some (.info, "generic_info")
  else none

/-- A classified line is looked for in so many lines. -/
def sampleSize : Nat := 100

def accepts (content : String) : Run Bool :=
  return ((Line.read Line.defaultLimit content).take sampleSize).any fun line =>
    (classify? line.text).isSome

def parseLine : LineReader := fun line number id =>
  return (classify? line).map fun (verdict, category) =>
    { (profile.event.withVerdict verdict).onLine number line with
      id
      category
      kind := if verdict.status == .error then .buildError else .lintIssue
      message := stripped line }

def format : Format := .ofLines profile accepts parseLine

end BuildLog.Format.Prefixed
