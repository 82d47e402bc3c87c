import BuildLog.Reading

/-! What every registered format makes of a log. -/
namespace BuildLog

variable [Host]

structure Finding where
  format : String
  priority : Int
  accepts : Bool
  events : Nat
  /-- The format that the log is recognised as. -/
  isSelected : Bool

namespace Finding

/-- The number of events of a format, if it accepts the log; one that gives up does not. -/
def eventCount? (c : Context) (f : Format) (content : String) : Run (Option Nat) :=
  Run.orElse (do
    if ← f.acceptsLog content then return some (← c.run f content).length else return none) none

def of (c : Context) (selected : Option Nat) (content : String) (r : Registration) :
    Run Finding := do
  let count ← eventCount? c r.format content
  return {
    format := r.profile.format
    priority := r.profile.priority
    accepts := count.isSome
    events := count.getD 0
    isSelected := selected == some r.serial }

def toValue (f : Finding) : Json.Value :=
  .object [
    ("format", .string f.format),
    ("priority", .int f.priority),
    ("can_parse", .bool f.accepts),
    ("events_produced", .int f.events),
    ("is_selected", .bool f.isSelected)]

end Finding

/-- The findings by priority. Lines are cut at the default limit. -/
def Registry.survey (g : Registry) (content : String) : Run (List Finding) := do
  let selected := (← g.detect content).map (·.serial)
  g.ranked.mapM (Finding.of { registry := g } selected content)

end BuildLog
