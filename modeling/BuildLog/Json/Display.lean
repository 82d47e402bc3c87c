import BuildLog.Decimal.Layout
import BuildLog.Json.Value
import BuildLog.Text.Quoted

/-! Values shown inside messages: a string as it is, a string inside a list or an object
quoted, and the words `None`, `True` and `False`. -/
namespace BuildLog.Json

open BuildLog.Text

def commaSeparated (parts : List String) : String := ", ".intercalate parts

mutual

/-- A value as it stands inside a list. -/
def Value.shown : Value → String
  | .null => "None"
  | .bool b => if b then "True" else "False"
  | .int n => toString n
  | .float x => Decimal.Layout.plain.text x
  | .string s => quoted s
  | .array items => "[" ++ commaSeparated (shownItems items) ++ "]"
  | .object members => "\x7b" ++ commaSeparated (shownMembers members) ++ "\x7d"

def shownItems : List Value → List String
  | [] => []
  | v :: rest => v.shown :: shownItems rest

def shownMembers : List (String × Value) → List String
  | [] => []
  | (name, v) :: rest => (quoted name ++ ": " ++ v.shown) :: shownMembers rest

end

/-- The text of a value. -/
def Value.text : Value → String
  | .string s => s
  | v => v.shown

/-- The text of a value that counts as given, else the empty text. -/
def Value.givenText (v : Value) : String := if v.isGiven then v.text else ""

end BuildLog.Json
