import BuildLog.Format.AdHoc
import BuildLog.Line.Stream
import BuildLog.Registry.Catalog
import BuildLog.Specifier
import BuildLog.World.Basic

/-! Reading logs in the format that a specifier names. -/
namespace BuildLog

open Text

variable [Host]

/-- What a log is read with. -/
structure Context where
  registry : Registry := .standard
  limit : Int := Line.defaultLimit
  /-- The folder from which rule documents are looked for. -/
  folder : Option Path := none
  world : World := {}

namespace Context

def surroundings (c : Context) : Surroundings := c.registry.surroundings c.limit

/-- The path of a rule document, seen from the folder for these. -/
def documentPath? (c : Context) (location : String) : Option Path :=
  ((Path.read location).expandHome? c.world.home?).map fun path =>
    (c.folder.map (·.inside path)).getD path

def pageText (c : Context) (url : String) : Run String :=
  match c.world.fetch url with
  | .ok text => return text
  | .error reason => throw (.config (.unfetched url reason))

def fileText (c : Context) (location : String) : Run String := do
  let some path := c.documentPath? location | throw .noHome
  match ← c.world.document path with
  | .ok text => return text
  | .error e => throw (.config (.unreadable path.text e))

/-- The text of a rule document. -/
def documentText (c : Context) (name : String) : Run String :=
  let location := Specifier.location name
  if location.isEmpty then throw (.config (.emptyReference name))
  else if Specifier.isUrl location then c.pageText location
  else c.fileText location

def document (c : Context) (name : String) : Run RuleSet := do
  RuleSet.read (← c.documentText name)

def run (c : Context) (f : Format) (content : String) : Run (List Event) :=
  f.run c.surroundings content

/-- The events of a format that accepts the log, none if it does not. -/
def tryRun (c : Context) (f : Format) (content : String) : Run (List Event) := do
  if ← f.acceptsLog content then c.run f content else return []

/-- The events of the first format that finds any. A format that gives up is passed over. -/
def runFirst (c : Context) (content : String) : List Registration → Run (List Event)
  | [] => return []
  | r :: rest => do
    let events ← (c.tryRun r.format content).orElse []
    if events.isEmpty then c.runFirst content rest else return events

def runDetected (c : Context) (content : String) : Run (List Event) := do
  match ← c.registry.detect content with
  | none => return []
  | some r => c.run r.format content

/-- A name stands for a group before a format, and for a format before a rule document. -/
def runNamed (c : Context) (content name : String) : Run (List Event) :=
  if c.registry.isGroup name then c.runFirst content (c.registry.inGroup name)
  else
    match c.registry.find? name with
    | some r => c.run r.format content
    | none =>
      if Specifier.isDocument name then do c.run (← c.document name).format content
      else return []

def runSpecifier (c : Context) (content : String) : Specifier → Run (List Event)
  | .unknown => return []
  | .auto => c.runDetected content
  | .pattern source => Format.AdHoc.parse source false content
  | .named name => c.runNamed content name

/-- The events of the first specifier that yields any. -/
def runParts (c : Context) (content : String) : List String → Run (List Event)
  | [] => return []
  | part :: rest => do
    let events ← c.runSpecifier content (.ofText part)
    if events.isEmpty then c.runParts content rest else return events

/-- The events of a log. -/
def parse (c : Context) (content format : String) : Run (List Event) :=
  c.runParts content (Specifier.parts format)

/-- The name of the format that a log is recognised as, empty if there is none. -/
def detectedName (c : Context) (content : String) : Run String := do
  return ((← c.registry.detect content).map (·.profile.format)).getD ""

end Context

/-- Whether a specifier names anything. -/
def Specifier.isValid (g : Registry) : Specifier → Bool
  | .unknown => false
  | .auto => true
  | .pattern source => !source.isEmpty
  | .named name => g.has name || g.isGroup name || isDocument name

def Registry.accepts (g : Registry) (format : String) : Bool :=
  (Specifier.parts format).any fun part => (Specifier.ofText part).isValid g

namespace Format

/-- The events of a file that a format reads by itself, line by line while its bytes come in if
it can. -/
def parseFile (f : Format) (w : World) (limit : Int) (path : Path) : Run (List Event) := do
  match w.bytes path with
  | .ok bytes =>
    if f.streams then f.parseLines (Line.stream limit bytes) else f.parse (Utf8.decode bytes)
  | .error .missing | .error .notDirectory =>
    Run.tell (.fileNotFound path.text)
    return []
  | .error e => throw (.file e)

end Format

namespace Context

/-- The one format that may read a file by itself. -/
def fileFormat? (c : Context) (format : String) : Option Format :=
  let name := stripped format
  if name.contains ',' || ["", "auto", "unknown"].contains name || c.registry.isGroup name then none
  else
    ((c.registry.find? name).map (·.format)).filter fun f =>
      !f.needsContext && f.streamsFiles && f.profile.family == .text

/-- The folder for rule documents is that of the log file unless another is given. -/
def beside (c : Context) (path : Path) : Context :=
  { c with folder := some (c.folder.getD path.parent) }

/-- The events of a file. -/
def parseFile (c : Context) (path : Path) (format : String) : Run (List Event) := do
  match c.world.bytes path with
  | .error .nameTooLong => throw (.file .nameTooLong)
  | .error _ =>
    Run.tell (.fileNotFound path.text)
    return []
  | .ok bytes =>
    match c.fileFormat? format with
    | some f => f.parseFile c.world c.limit path
    | none => (c.beside path).parse (Utf8.decode bytes) format

end Context

end BuildLog
