import BuildLog.Registry.Loading
import BuildLog.Service.Body
import BuildLog.Survey

/-! The service: it answers requests from one registry, which requests may change. -/
namespace BuildLog

open Json (Members Value)

variable [Host]

structure Service where
  registry : Registry
  limit : Int
  world : World

namespace Service

def succeed (body : Value) : Response := ⟨200, some body⟩

def detail (status : Nat) (text : String) : Response :=
  ⟨status, some (.object [("detail", .string text)])⟩

def notFound : Response := detail 404 "Not Found"

def wrongMethod : Response := detail 405 "Method Not Allowed"

def badBody (problems : List Problem) : Response :=
  ⟨422, some (.object [("detail", .array (problems.map Problem.toValue))])⟩

/-- The answer when a request cannot be carried out for reasons of its own. -/
def broken : Response := ⟨500, none⟩

def context (s : Service) : Context :=
  { registry := s.registry, limit := s.limit, world := s.world }

/-- An event of an answer. Truth values in the place of numbers are numbers there. -/
def eventValue (e : Event) : Value :=
  { e with line := .int e.line.toInt, column := .int e.column.toInt }.toValue

/-- Events as an answer; JSON has no words for infinity and for no number. -/
def eventsAnswer (format : String) (events : List Event) : Response :=
  if events.all (·.seconds.isFinite) then
    succeed (.object [
      ("format", .string format),
      ("count", .int events.length),
      ("events", .array (events.map eventValue))])
  else broken

def health (s : Service) : Response :=
  succeed (.object [("status", .string "ok"), ("parsers", .int s.registry.size)])

/-- The listed formats of a category, all if none is given. -/
def formats (s : Service) (category : String) : Response :=
  let listed := s.registry.listed.filter fun p => category.isEmpty || p.category == category
  succeed (.object [("formats", .array (listed.map Registry.profileValue))])

def detect (s : Service) (content : String) : Run Response := do
  let name ← s.context.detectedName content
  return succeed (.object [("format", if name.isEmpty then .null else .string name)])

def diagnose (s : Service) (content : String) : Run Response := do
  let findings ← s.registry.survey content
  return succeed (.object [("results", .array (findings.map Finding.toValue))])

/-- Parts of a specifier that refer to rule documents. A request may not make the service read
files or pages. -/
def documentParts (g : Registry) (format : String) : List String :=
  if Specifier.isPattern format then []
  else
    ((Text.pieces ',' format).map Text.stripped).filter fun part =>
      Specifier.isDocument part && !g.has part

def parse (s : Service) (log : Body.Log) : Run Response := do
  if !s.registry.accepts log.format then
    return detail 400 s!"Unknown format: '{log.format}'"
  if !(documentParts s.registry log.format).isEmpty then
    return detail 400
      "Parser config references are not accepted here; register the config with POST /parsers"
  match ← (s.context.parse log.content log.format).attempt with
  | .ok events => return eventsAnswer log.format events
  | .error (.config e) => return detail 400 e.message
  | .error e => throw e

def named (name : String) : Value := .object [("ok", .bool true), ("format", .string name)]

/-- The answer to a rule document, and the service with its rules. -/
def load (s : Service) (document : Members) : Run (Response × Service) := do
  match ← (s.registry.load ((Value.object document).write .asciiOnly)).attempt with
  | .ok (name, registry) => return (⟨201, some (named name)⟩, { s with registry })
  | .error (.config e) => return (detail 400 e.message, s)
  | .error e => throw e

def unload (s : Service) (name : String) : Run (Response × Service) := do
  if !s.registry.has name then return (detail 404 ("No such parser: " ++ name), s)
  match ← s.registry.unload name with
  | some registry => return (succeed (named name), { s with registry })
  | none => return (detail 400 ("Cannot unload built-in parser: " ++ name), s)

/-- Answer with a body that has been read. -/
def withBody {α : Type} (s : Service) (body : Except (List Problem) α)
    (answer : α → Run (Response × Service)) : Run (Response × Service) :=
  match body with
  | .ok a => answer a
  | .error problems => return (badBody problems, s)

def onRoute (s : Service) (r : Request) : Route → Run (Response × Service)
  | .health => return (s.health, s)
  | .formats => return (s.formats (r.query.get "category"), s)
  | .detect => s.withBody (Body.content r.body) fun content => return (← s.detect content, s)
  | .parse => s.withBody (Body.log r.body) fun log => return (← s.parse log, s)
  | .diagnose => s.withBody (Body.content r.body) fun content => return (← s.diagnose content, s)
  | .parsers => s.withBody (Body.document r.body) s.load
  | .parser name => s.unload name

/-- The full answer to a request, and the service after it. -/
def answerInFull (s : Service) (r : Request) : Run (Response × Service) := do
  match Route.ofPath? r.path with
  | none => return (notFound, s)
  | some route =>
    if Text.upper r.method != route.method then return (wrongMethod, s)
    match ← (s.onRoute r route).attempt with
    | .ok result => return result
    | .error _ => return (broken, s)

/-- The answer to a request, and the service after it. One method asks for no body. -/
def answer (s : Service) (r : Request) : Run (Response × Service) := do
  let (response, s) ← s.answerInFull r
  return (if Text.upper r.method == "HEAD" then { response with body := none } else response, s)

/-- A service with the rules of a folder. -/
def start (w : World) (folder : Option Path) (limit : Int) : Run Service := do
  let documents := (folder.map (Registry.documentsIn w)).getD []
  return ⟨← Registry.loadFolder w .standard documents, limit, w⟩

end Service

end BuildLog
