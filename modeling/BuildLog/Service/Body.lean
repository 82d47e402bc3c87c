import BuildLog.Service.Request

/-! Bodies of requests, and what is wrong with them. All faulty members are told at once. -/
namespace BuildLog.Service

open Json (Members Value)

inductive Flaw where
  | missing
  | notObject
  | notText
  | tooShort
  | notMap
deriving DecidableEq

def Flaw.name : Flaw → String
  | .missing => "missing"
  | .notObject => "model_attributes_type"
  | .notText => "string_type"
  | .tooShort => "string_too_short"
  | .notMap => "dict_type"

/-- A flaw of a member, or of the body itself. -/
structure Problem where
  member : Option String
  flaw : Flaw
deriving DecidableEq

def Problem.toValue (p : Problem) : Value :=
  .object [
    ("loc", .array (.string "body" :: (p.member.map Value.string).toList)),
    ("type", .string p.flaw.name)]

namespace Body

/-- The members of a body. -/
def members : Option Value → Except (List Problem) Members
  | none | some .null => .error [⟨none, .missing⟩]
  | some (.object members) => .ok members
  | some _ => .error [⟨none, .notObject⟩]

/-- The text of a member, which must be there unless there is another for it. -/
def text (m : Members) (name : String) (otherwise : Option String) : Except (List Problem) String :=
  match m.get? name, otherwise with
  | none, some text => .ok text
  | none, none => .error [⟨some name, .missing⟩]
  | some (.string s), _ => .ok s
  | some _, _ => .error [⟨some name, .notText⟩]

def content (body : Option Value) : Except (List Problem) String := do
  text (← members body) "content" none

/-- A log and the format it is written in. -/
structure Log where
  content : String
  format : String

def logFormat (m : Members) : Except (List Problem) String := do
  let format ← text m "format" (some "auto")
  if format.isEmpty then throw [⟨some "format", .tooShort⟩]
  return format

def log (body : Option Value) : Except (List Problem) Log := do
  let m ← members body
  match text m "content" none, logFormat m with
  | .ok content, .ok format => return ⟨content, format⟩
  | .error a, .error b => throw (a ++ b)
  | .error a, _ => throw a
  | _, .error b => throw b

/-- A rule document. -/
def document (body : Option Value) : Except (List Problem) Members := do
  match (← members body).get? "config" with
  | none => throw [⟨some "config", .missing⟩]
  | some (.object m) => return m
  | some _ => throw [⟨some "config", .notMap⟩]

end Body

end BuildLog.Service
