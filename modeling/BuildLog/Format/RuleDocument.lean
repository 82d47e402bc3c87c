import BuildLog.Format.Rules
import BuildLog.Json.Display
import BuildLog.Pattern.Compile

/-! Rule documents: JSON objects that define a format. -/
namespace BuildLog.RuleSet

open Text
open Json (Members Value)

variable [Host]

/-- The text of a member that counts as given, else the empty text. -/
def givenText (m : Members) (name : String) : String := ((m.get? name).map Value.givenText).getD ""

def givenTextOr (m : Members) (name otherwise : String) : String :=
  let text := givenText m name
  if text.isEmpty then otherwise else text

/-- A list of texts; a single text stands for a list of one. -/
def texts (m : Members) (name : String) (otherwise : List String) :
    Except ConfigError (List String) :=
  match (m.get? name).getD .null with
  | .null => .ok otherwise
  | .string s => .ok [s]
  | v => ((v.list? Value.string?).map .ok).getD (.error (.notStrings name))

/-- A map from words; a member that does not count as given is empty. -/
def entries (m : Members) (name : String) : Run Members :=
  match (m.get? name).getD .null with
  | .object members => return members
  | v => if v.isGiven then throw .mapNotObject else return []

def demand {α : Type} (x : Except ConfigError α) : Run α :=
  match x with
  | .ok a => return a
  | .error e => throw (.config e)

def given? (m : Members) (name : String) : Option Value := (m.get? name).filter Value.isGiven

/-- The status that a rule maps a word to. -/
def readStatus (index : Nat) (entry : String × Value) : Run (String × Status) :=
  match Status.read? entry.2.text with
  | some s => return (entry.1, s)
  | none => throw (.config (.unknownStatus index entry.2.text))

/-- What a rule tells besides its pattern and kind, and the pattern itself. -/
def readRest (index : Nat) (m : Members) (source : String) (kind : Kind) : Run Rule := do
  let severities := (← entries m "severity_map").map fun (word, v) => (word, lower v.text)
  let statuses ← (← entries m "status_map").mapM (readStatus index)
  return {
    name := givenTextOr m "name" s!"pattern_{index}"
    pattern := ← Pattern.compile source
    kind
    severity := lower (givenText m "severity")
    severities
    statuses }

/-- The rule at a place of the list, counted from zero. -/
def readRule (index : Nat) (v : Value) : Run Rule := do
  let .object m := v | throw (.config (.ruleNotObject index))
  let some source := given? m "regex" | throw (.config (.ruleLacks index "regex"))
  let some kindText := given? m "event_type" | throw (.config (.ruleLacks index "event_type"))
  let some kind := Kind.ofName? kindText.text
    | throw (.config (.unknownKind index kindText.text))
  readRest index m source.text kind

/-- The pattern that a log must hold. -/
def readPattern? (d : Members) : Run (Option Pattern) :=
  match given? d "regex" with
  | none => return none
  | some (.string source) => return some (← Pattern.compile source)
  | some _ => throw .patternNotText

/-- What a log must hold to be recognised. -/
def readDemands (d : Members) : Run Detection := do
  let anyOf ← demand (texts d "contains" [])
  let allOf ← demand (texts d "contains_all" [])
  return { anyOf, allOf, pattern := ← readPattern? d }

def readDetection (m : Members) : Run Detection :=
  match given? m "detection" with
  | none => readDemands []
  | some (.object d) => readDemands d
  | some _ => throw (.config .detectionNotObject)

/-- The name of the format, which must hold more than blanks. -/
def readName (m : Members) : Run String :=
  match m.get? "name" with
  | some (.string name) =>
    if isBlankText name then throw (.config (.missingField "name")) else return stripped name
  | _ => throw (.config (.missingField "name"))

/-- The list of rules, of which there must be one. -/
def readItems (m : Members) : Run (List Value) :=
  match (m.get? "patterns").getD .null with
  | .null => throw (.config (.missingField "patterns"))
  | .array (item :: rest) => return item :: rest
  | _ => throw (.config .noPatterns)

def readPriority (m : Members) : Run Int :=
  match (m.get? "priority").getD (.int 50) with
  | .int priority => return priority
  | _ => throw (.config .priorityNotInteger)

/-- What a document tells about its format. What it does not say is chosen for it. -/
def profileOf (m : Members) (format : String) (priority : Int) (aliases groups : List String) :
    Profile :=
  let title := givenTextOr m "display_name" format
  { format
    title
    category := givenTextOr m "category" "tool_output"
    description := givenTextOr m "description" ("Custom parser loaded from config: " ++ title)
    priority
    aliases
    groups
    isBuiltin := false
    tool := givenTextOr m "tool_name" format }

/-- The rules of a document. -/
def ofMembers (m : Members) : Run RuleSet := do
  let format ← readName m
  let items ← readItems m
  let priority ← readPriority m
  let detection ← readDetection m
  let rules ← (items.mapIdx fun i v => (i, v)).mapM fun (i, v) => readRule i v
  let aliases ← demand (texts m "aliases" [])
  let groups ← demand (texts m "groups" ["custom"])
  return { profile := profileOf m format priority aliases groups, rules, detection }

def read (text : String) : Run RuleSet :=
  match Json.read text with
  | .ok (.object m) => ofMembers m
  | .ok _ => throw (.config .notObject)
  | .error (.malformed m) => throw (.config (.badJson m))
  | .error .tooManyDigits => throw (.number .tooManyDigits)
  | .error .tooDeep => throw .tooDeep

end BuildLog.RuleSet
