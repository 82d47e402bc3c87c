/-! JSON values. An object keeps its members in the order in which their names first appeared. -/
namespace BuildLog.Json

inductive Value where
  | null
  | bool (b : Bool)
  | int (n : Int)
  | float (x : Float)
  | string (s : String)
  | array (items : List Value)
  | object (members : List (String × Value))

abbrev Members := List (String × Value)

/-- The value of a member. -/
def Members.get? (members : Members) (name : String) : Option Value := members.lookup name

def Members.has (members : Members) (name : String) : Bool := (members.get? name).isSome

/-- A name that is already there keeps its place and takes the new value. -/
def Members.set (members : Members) (name : String) (value : Value) : Members :=
  if members.has name then members.map fun m => if m.1 == name then (name, value) else m
  else members ++ [(name, value)]

/-- Null, false, zero and whatever is empty do not count as given. -/
def Value.isGiven : Value → Bool
  | .null => false
  | .bool b => b
  | .int n => n != 0
  | .float x => x != 0
  | .string s => !s.isEmpty
  | .array items => !items.isEmpty
  | .object members => !members.isEmpty

def Value.string? : Value → Option String
  | .string s => some s
  | _ => none

/-- A list of which every element passes `f`. -/
def Value.list? (f : Value → Option α) : Value → Option (List α)
  | .array items => items.mapM f
  | _ => none

end BuildLog.Json
