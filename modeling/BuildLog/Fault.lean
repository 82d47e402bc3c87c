import BuildLog.Json.Reader
import BuildLog.Pattern.Error

/-! Why an operation gives no answer. Faults of rule documents and of references to them have a
message; other faults are told by their cause alone. -/
namespace BuildLog

open Text

inductive FileError where
  | missing
  | notDirectory
  | isDirectory
  | nameTooLong
deriving DecidableEq

def FileError.number : FileError → Nat
  | .missing => 2
  | .notDirectory => 20
  | .isDirectory => 21
  | .nameTooLong => 36

def FileError.text : FileError → String
  | .missing => "No such file or directory"
  | .notDirectory => "Not a directory"
  | .isDirectory => "Is a directory"
  | .nameTooLong => "File name too long"

def FileError.message (e : FileError) (path : String) : String :=
  s!"[Errno {e.number}] {e.text}: " ++ quoted path

/-- What is wrong with a rule document or with a reference to one. -/
inductive ConfigError where
  | badJson (m : Json.Malformed)
  | notObject
  | missingField (name : String)
  | noPatterns
  | priorityNotInteger
  | detectionNotObject
  | notStrings (key : String)
  | ruleNotObject (index : Nat)
  | ruleLacks (index : Nat) (field : String)
  | unknownKind (index : Nat) (text : String)
  | unknownStatus (index : Nat) (text : String)
  | badPattern (source : String) (fault : Pattern.Fault)
  | replacesBuiltin (name : String)
  | shadowsBuiltin (name : String)
  | emptyReference (spec : String)
  | unfetched (url reason : String)
  | unreadable (path : String) (e : FileError)
deriving DecidableEq

def ruleName (index : Nat) : String := s!"patterns[{index}]"

def ConfigError.message : ConfigError → String
  | .badJson m => "Invalid JSON in parser config: " ++ m.message
  | .notObject => "Parser config must be a JSON object"
  | .missingField name => s!"Parser config is missing required field '{name}'"
  | .noPatterns => "'patterns' must be a non-empty list"
  | .priorityNotInteger => "'priority' must be an integer"
  | .detectionNotObject => "'detection' must be an object"
  | .notStrings key => s!"'{key}' must be a list of strings"
  | .ruleNotObject index => ruleName index ++ " must be an object"
  | .ruleLacks index field => ruleName index ++ s!" is missing required field '{field}'"
  | .unknownKind index text => ruleName index ++ s!": invalid event_type '{text}'"
  | .unknownStatus index text => ruleName index ++ s!": unknown status '{text}'"
  | .badPattern source fault => s!"Invalid regex pattern '{source}': {fault.message}"
  | .replacesBuiltin name => "Cannot replace built-in parser: " ++ name
  | .shadowsBuiltin name => s!"Alias '{name}' would shadow built-in parser"
  | .emptyReference spec => "Empty parser config reference: " ++ quoted spec
  | .unfetched url reason => s!"Could not fetch parser config {url}: {reason}"
  | .unreadable path e => s!"Could not read parser config {path}: {e.message path}"

inductive Fault where
  | config (e : ConfigError)
  /-- A report has something else where a list of messages is due. -/
  | messagesNotList
  /-- A detection pattern that is no text. -/
  | patternNotText
  /-- Something else where a map from words is due. -/
  | mapNotObject
  | number (e : Decimal.Error)
  | pattern (e : Pattern.Error)
  /-- A document nested too deep. -/
  | tooDeep
  /-- Bytes that are no text. -/
  | undecodable
  /-- A path with a character that no path may have. -/
  | badPath
  | file (e : FileError)
  /-- The home folder of an unknown user. -/
  | noHome
  /-- A format of the caller's own gave up. -/
  | format

/-- Things to tell besides the answer. -/
inductive Notice where
  | riskyPattern (source : String)
  | fileNotFound (path : String)
  | builtinKept (name : String)
  | configSkipped (file reason : String)
  /-- Why the command line gives up. -/
  | failure (text : String)
deriving DecidableEq

def Notice.isError : Notice → Bool
  | .failure _ => true
  | _ => false

def Notice.message : Notice → String
  | .riskyPattern source => "Pattern may backtrack badly on long lines: " ++ source
  | .fileNotFound path => "File not found: " ++ path
  | .builtinKept name => "Refusing to unload built-in parser " ++ name
  | .configSkipped file reason => s!"[Hugin] skipping parser config {file}: {reason}"
  | .failure text => text

/-- The level and the message. -/
def Notice.text (n : Notice) : String :=
  (if n.isError then "ERROR " else "WARNING ") ++ n.message

/-- A computation that may fail and tells notices, which outlast the failure. -/
abbrev Run (α : Type) : Type := ExceptT Fault (StateM (Array Notice)) α

namespace Run

def tell (n : Notice) : Run Unit := modify (·.push n)

/-- The answer or the fault, in place of failing. -/
def attempt (x : Run α) : Run (Except Fault α) := fun notices =>
  let (r, notices) := x notices
  (.ok r, notices)

/-- The answer and the notices of a computation. -/
def result (x : Run α) : Except Fault α × Array Notice := x.run #[]

/-- An answer that a fault replaces. -/
def orElse (x : Run α) (other : α) : Run α := do
  match ← x.attempt with
  | .ok a => pure a
  | .error _ => pure other

def ofNumber (x : Except Decimal.Error α) : Run α :=
  match x with
  | .ok a => pure a
  | .error e => throw (.number e)

/-- The value of a text that is JSON. -/
def readJson? [Host] (s : String) : Run (Option Json.Value) :=
  match Json.read? s with
  | .ok v => pure v
  | .error _ => throw .tooDeep

end BuildLog.Run
