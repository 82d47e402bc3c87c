import BuildLog.Fault
import BuildLog.Pattern.Alias
import BuildLog.Pattern.Reader
import BuildLog.Pattern.Risk
import BuildLog.Pattern.Search

/-! Patterns given by the user. -/
namespace BuildLog.Pattern

variable [Host]

/-- Read a pattern in either spelling of named groups; a risky one is told. A fault is told with
the text as it was given. -/
def compile (text : String) : Run Pattern := do
  let source := String.ofList (expandAlias text.toList)
  if isRisky source then Run.tell (.riskyPattern text)
  match read source with
  | .ok p => pure p
  | .error (.fault f) => throw (.config (.badPattern text f))
  | .error e => throw (.pattern e)

end BuildLog.Pattern
