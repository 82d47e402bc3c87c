import BuildLog.Pattern.Like
import BuildLog.Pattern.Reader
import BuildLog.Text.Blank
import BuildLog.Text.Search

/-! Commands, and the patterns by which a format knows the commands that produce it. -/
namespace BuildLog

open Text

variable [Host]

inductive CommandKind where
  /-- The whole command or its leading words. -/
  | literal
  | like
  | regexp
  /-- Any other kind is searched like a pattern. -/
  | other (name : String)
deriving DecidableEq

def CommandKind.name : CommandKind → String
  | .literal => "literal"
  | .like => "like"
  | .regexp => "regexp"
  | .other name => name

def CommandKind.ofName (name : String) : CommandKind :=
  if name == "literal" then .literal
  else if name == "like" then .like
  else if name == "regexp" then .regexp
  else .other name

structure CommandPattern where
  pattern : String
  kind : CommandKind
deriving DecidableEq

namespace Command

def afterLastSlash (cs : List Char) : List Char := (cs.reverse.takeWhile (· != '/')).reverse

/-- The command without blanks around it and without the folder of its program. -/
def normalize (command : String) : String :=
  let cs := trim command.toList
  let program := cs.takeWhile (· != ' ')
  String.ofList (afterLastSlash program ++ cs.drop program.length)

/-- The pattern of a kind in general notation; a faulty one is none. -/
def compile? (kind : CommandKind) (pattern : String) : Except Pattern.Error (Option Pattern) :=
  match kind with
  | .like => .ok (some (Pattern.Like.pattern pattern))
  | _ =>
    match Pattern.read pattern with
    | .ok p => .ok (some p)
    | .error (.fault _) => .ok none
    | .error e => .error e

/-- The patterns compiled so far, faulty ones included. -/
structure Cache where
  entries : List ((CommandKind × String) × Option Pattern)

def Cache.empty : Cache := ⟨[]⟩

def Cache.size (cache : Cache) : Nat := cache.entries.length

def Cache.get (cache : Cache) (kind : CommandKind) (pattern : String) :
    Except Pattern.Error (Option Pattern × Cache) :=
  match cache.entries.lookup (kind, pattern) with
  | some compiled => .ok (compiled, cache)
  | none =>
    (compile? kind pattern).map fun compiled =>
      (compiled, ⟨((kind, pattern), compiled) :: cache.entries⟩)

end Command

namespace CommandPattern

def startsCommand (pattern command : String) : Bool :=
  command == pattern || Text.startsWith command (pattern ++ " ")

/-- Whether a compiled pattern accepts a command. -/
def accepts (kind : CommandKind) (compiled : Option Pattern) (command : String) : Bool :=
  match compiled with
  | none => false
  | some p =>
    match kind with
    | .like => (p.matchWhole command).isSome
    | _ => p.finds command

/-- Whether a normalized command matches. -/
def matches? (p : CommandPattern) (command : String) : Except Pattern.Error Bool :=
  match p.kind with
  | .literal => .ok (startsCommand p.pattern command)
  | kind => (Command.compile? kind p.pattern).map (accepts kind · command)

/-- The same with patterns compiled earlier. -/
def matchesCached (p : CommandPattern) (cache : Command.Cache) (command : String) :
    Except Pattern.Error (Bool × Command.Cache) :=
  match p.kind with
  | .literal => .ok (startsCommand p.pattern command, cache)
  | kind =>
    (cache.get kind p.pattern).map fun (compiled, cache) => (accepts kind compiled command, cache)

end CommandPattern

end BuildLog
