import BuildLog.CommandLine.Arguments
import BuildLog.Registry.Loading
import BuildLog.Survey

/-! What the command line does with a log file: it names its format, surveys it, or writes its
events as JSON. -/
namespace BuildLog.CommandLine

variable [Host]

inductive Ending where
  /-- The arguments cannot be carried out. -/
  | refused (r : Refusal)
  | done (code : Nat) (output : String)

namespace Ending

def isRefused : Ending → Bool
  | refused _ => true
  | done _ _ => false

def code : Ending → Nat
  | refused .help => 0
  | refused .misuse => 2
  | done code _ => code

def output : Ending → String
  | refused _ => ""
  | done _ output => output

/-- Give up with a code and a reason. -/
def failed (code : Nat) (reason : String) : Run Ending := do
  Run.tell (.failure reason)
  return .done code ""

end Ending

/-- JSON with two characters of indent and a line end. -/
def page (style : Json.Style) (v : Json.Value) : String :=
  v.write { style with indent := some 2 } ++ "\n"

def eventsPage (events : List Event) : String := page .compact (.array (events.map Event.toValue))

/-- The text of a file with line feeds as line ends. -/
def fileText (bytes : List UInt8) : String := Line.normalize (Text.Utf8.decode bytes)

def parse (c : Context) (path : Path) (format : String) : Run Ending := do
  if !c.registry.accepts format then Ending.failed 2 ("Unknown format: " ++ format)
  else
    match ← (c.parseFile path format).attempt with
    | .ok events => return .done 0 (eventsPage events)
    | .error (.config e) => Ending.failed 2 e.message
    | .error e => throw e

def onFile (c : Context) (a : Arguments) (path : Path) : Run Ending := do
  match c.world.bytes path with
  | .error .nameTooLong => throw (.file .nameTooLong)
  | .error _ => Ending.failed 1 ("File not found: " ++ path.text)
  | .ok bytes =>
    if a.detect then
      let name ← c.detectedName (fileText bytes)
      return .done 0 ((if name.isEmpty then "unknown" else name) ++ "\n")
    else if a.diagnose then
      let findings ← c.registry.survey (fileText bytes)
      return .done 0 (page .asciiOnly (.array (findings.map Finding.toValue)))
    else parse c path a.format

def carryOut (w : World) (limit : Int) (a : Arguments) : Run Ending := do
  match ← Registry.loadFiles w .standard (a.configs.map Path.read) with
  | .error reason => Ending.failed 2 reason
  | .ok registry =>
    if a.listFormats then
      return .done 0 (page .asciiOnly (.array registry.listedValue))
    else
      match a.file with
      | none => Ending.failed 2 "No input file given"
      | some file => onFile { registry, limit, world := w } a (.read file)

/-- The files that may be looked at to carry out the arguments. -/
def paths (w : World) (a : Arguments) : List Path :=
  let file := a.file.map Path.read
  let c := ({ world := w } : Context).beside (file.getD (.read ""))
  let documents := (Specifier.parts a.format).filter Specifier.isDocument
  file.toList ++ a.configs.map Path.read ++
    documents.filterMap fun part => c.documentPath? (Specifier.location part)

def run (w : World) (limit : Int) (texts : List String) : Run Ending :=
  match Arguments.read texts with
  | .error r => return .refused r
  | .ok a => carryOut w limit a

end BuildLog.CommandLine
