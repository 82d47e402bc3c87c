import BuildLog.Json.Writer

/-! Named texts in the order in which their names first appeared. -/
namespace BuildLog

abbrev Attributes := List (String × String)

namespace Attributes

def get? (a : Attributes) (name : String) : Option String := a.lookup name

/-- The text of a name, empty if there is none. -/
def get (a : Attributes) (name : String) : String := (a.get? name).getD ""

def has (a : Attributes) (name : String) : Bool := (a.get? name).isSome

/-- A name that is already there keeps its place and takes the new text. -/
def set (a : Attributes) (name text : String) : Attributes :=
  if a.has name then a.map fun p => if p.1 == name then (name, text) else p
  else a ++ [(name, text)]

def erase (a : Attributes) (name : String) : Attributes := a.filter (·.1 != name)

/-- The first text that is not empty among those of the given names. -/
def first (a : Attributes) (names : List String) : String :=
  ((names.map a.get).find? (!·.isEmpty)).getD ""

/-- Take names away until one of them had a text that is not empty. -/
def takeFirst (a : Attributes) : (names : List String) → String × Attributes
  | [] => ("", a)
  | name :: rest =>
    let text := a.get name
    if text.isEmpty then (a.erase name).takeFirst rest else (text, a.erase name)

def toValue (a : Attributes) : Json.Value :=
  .object (a.map fun (name, text) => (name, .string text))

/-- A JSON object, and the empty text if there is nothing in it. -/
def line (a : Attributes) : String := if a.isEmpty then "" else a.toValue.line

end BuildLog.Attributes
