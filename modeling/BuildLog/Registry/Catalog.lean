import BuildLog.Format.RuleDocument
import BuildLog.Registry.Basic

/-! The catalog: rule documents loaded into the registry and taken out of it, and what is told
about the registered formats. -/
namespace BuildLog.Registry

open Text

variable [Host]

/-- The key of a profile that belongs to a format that is always known. -/
def protectedKey? (g : Registry) (p : Profile) : Option String := p.keys.find? g.isBuiltin

/-- Register the rules of a document in place of earlier rules of the same name. Formats that
are always known keep their names and aliases. -/
def load (g : Registry) (text : String) : Run (String × Registry) := do
  let rules ← RuleSet.read text
  let p := rules.profile
  match g.protectedKey? p with
  | some key =>
    throw (.config (if key == p.format then .replacesBuiltin key else .shadowsBuiltin key))
  | none =>
    let g := (g.unregister? p.format).getD g
    return (p.format, g.register rules.format)

/-- Take out the format that a name or an alias stands for, unless it is always known. -/
def unload (g : Registry) (key : String) : Run (Option Registry) := do
  match g.find? key with
  | none => return none
  | some r =>
    if r.profile.isBuiltin then
      Run.tell (.builtinKept key)
      return none
    else return g.unregister? r.profile.format

def isBefore (a b : Profile) : Bool :=
  a.category < b.category || (a.category == b.category && a.format ≤ b.format)

/-- The profiles of all formats by category and name. -/
def profiles (g : Registry) : List Profile := (g.entries.map (·.profile)).mergeSort isBefore

def categories (g : Registry) : List String :=
  ((g.entries.map (·.profile.category)).mergeSort (· ≤ ·)).eraseDups

/-- Categories whose logs come out of workflows. -/
def isWorkflow (category : String) : Bool :=
  category == "workflow" || (pieces '_' category).contains "ci"

/-- The choice of the format by the content, listed like a format. -/
def autoProfile : Profile where
  format := "auto"
  title := "Auto-detect"
  category := "meta"
  description := "Detect the format from the content"
  priority := 0

/-- What is told about the formats that a user can choose. -/
def listed (g : Registry) : List Profile := autoProfile :: g.profiles

def commandValue (p : CommandPattern) : Json.Value :=
  .object [("pattern", .string p.pattern), ("type", .string p.kind.name)]

def stringsValue (texts : List String) : Json.Value := .array (texts.map .string)

def profileValue (p : Profile) : Json.Value :=
  .object [
    ("format", .string p.format),
    ("name", .string p.shownTitle),
    ("description", .string p.description),
    ("category", .string p.category),
    ("priority", .int p.priority),
    ("required_extension", .string p.extension),
    ("supports_workflow", .bool (isWorkflow p.category)),
    ("aliases", stringsValue p.aliases),
    ("groups", stringsValue p.groups),
    ("command_patterns", .array (p.commands.map commandValue)),
    ("is_builtin", .bool p.isBuiltin)]

def listedValue (g : Registry) : List Json.Value := g.listed.map profileValue

end BuildLog.Registry
