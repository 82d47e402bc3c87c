import BuildLog.Format.Builtin

/-! The registry: formats in the order of their registration, an index from names and aliases to
formats, and a view by priority, which is made anew when it is asked for after a change.
Registered formats are told apart by serial numbers, since nothing keeps two of them from having
one name, and one may be registered more than once. -/
namespace BuildLog

variable [Host]

structure Registration where
  serial : Nat
  format : Format

def Registration.profile (r : Registration) : Profile := r.format.profile

structure Registry where
  /-- In the order of registration. -/
  entries : List Registration := []
  /-- Keys, the one added last first. -/
  index : List (String × Registration) := []
  /-- The view by priority as it was made last. -/
  view : List Registration := []
  /-- The entries have changed since the view was made. -/
  isStale : Bool := false
  nextSerial : Nat := 0

namespace Registry

def empty : Registry := {}

/-- The index with the keys of one more registration. -/
def addKeys (index : List (String × Registration)) (r : Registration) :
    List (String × Registration) :=
  (r.profile.keys.map (·, r)).reverse ++ index

/-- Greatest priority first; of equal priorities, the one registered first. -/
def byPriority (entries : List Registration) : List Registration :=
  entries.mergeSort fun a b => b.profile.priority ≤ a.profile.priority

/-- The registry with one more registration. A format without a name is not registered. -/
def add (g : Registry) (r : Registration) : Registry :=
  if r.profile.format.isEmpty then g
  else { g with
    entries := g.entries ++ [r]
    index := addKeys g.index r
    isStale := true
    nextSerial := max g.nextSerial (r.serial + 1) }

/-- Register a format that is new to the registry. -/
def register (g : Registry) (f : Format) : Registry := g.add ⟨g.nextSerial, f⟩

/-- The view by priority, made anew if it is stale, and the registry that keeps it. -/
def sorted (g : Registry) : List Registration × Registry :=
  if g.isStale then
    let view := byPriority g.entries
    (view, { g with view, isStale := false })
  else (g.view, g)

def ranked (g : Registry) : List Registration := g.sorted.1

/-- The format that a name or an alias stands for. -/
def find? (g : Registry) (key : String) : Option Registration := g.index.lookup key

/-- Without one format; keys that it took from others go back to them. -/
def remove (g : Registry) (r : Registration) : Registry :=
  let entries := g.entries.filter (·.serial != r.serial)
  { g with entries, index := entries.foldl addKeys [], isStale := true }

/-- Remove a format by its own name, not by an alias; nothing else changes the registry. -/
def unregister? (g : Registry) (name : String) : Option Registry :=
  match g.find? name with
  | some r => if r.profile.format == name then some (g.remove r) else none
  | none => none

def clear (g : Registry) : Registry := { nextSerial := g.nextSerial }

def size (g : Registry) : Nat := g.entries.length

def has (g : Registry) (key : String) : Bool := (g.find? key).isSome

def isBuiltin (g : Registry) (key : String) : Bool := (g.find? key).any (·.profile.isBuiltin)

def isGroup (g : Registry) (tag : String) : Bool := g.entries.any (·.profile.groups.contains tag)

def inCategory (g : Registry) (category : String) : List Registration :=
  g.ranked.filter (·.profile.category == category)

def inGroup (g : Registry) (tag : String) : List Registration :=
  g.ranked.filter (·.profile.groups.contains tag)

/-- The payload of a log for a family, and the payloads taken from the log so far with it. -/
def takePayload (content : String) (taken : List (Family × String)) (family : Family) :
    String × List (Family × String) :=
  match taken.lookup family with
  | some payload => (payload, taken)
  | none =>
    let payload := family.payload content
    (payload, (family, payload) :: taken)

/-- The first format that accepts a log, of which every family's payload is taken once. A format
that gives up is passed over. -/
def acceptingFrom? (content : String) (taken : List (Family × String)) :
    List Registration → Run (Option Registration)
  | [] => return none
  | r :: rest => do
    let (payload, taken) := takePayload content taken r.profile.family
    if ← (r.format.accepts payload).orElse false then return some r
    else acceptingFrom? content taken rest

def accepting? (content : String) (members : List Registration) : Run (Option Registration) :=
  acceptingFrom? content [] members

/-- The first format by priority that accepts a log. -/
def detect (g : Registry) (content : String) : Run (Option Registration) :=
  accepting? content g.ranked

def ofPattern {α : Type} (x : Except Pattern.Error α) : Run α :=
  match x with
  | .ok a => return a
  | .error e => throw (.pattern e)

/-- Whether one of the patterns of a format matches a normalized command. -/
def matchesCommand (command : String) (r : Registration) : Run Bool :=
  r.profile.commands.anyM fun p => ofPattern (p.matches? command)

/-- The walk through the view by priority, with the best match so far. A format that is not of
greater priority than this one cannot be better, and none behind it can. -/
def bestFrom? {m : Type → Type} [Monad m] (knows : Registration → m Bool)
    (best : Option Registration) : List Registration → m (Option Registration)
  | [] => return best
  | r :: rest => do
    if best.any fun b => r.profile.priority ≤ b.profile.priority then return best
    else if ← knows r then bestFrom? knows (some r) rest
    else bestFrom? knows best rest

/-- The format of the greatest priority with a pattern that matches a command. -/
def byCommand (g : Registry) (command : String) : Run (Option Registration) :=
  let command := Command.normalize command
  if command.isEmpty then return none else bestFrom? (matchesCommand command) none g.ranked

/-- What the registry offers to a format that reads other formats. -/
def surroundings (g : Registry) (limit : Int) : Surroundings where
  limit := limit
  byCommand := some fun command => do return (← g.byCommand command).map (·.format.delegate)

def ofFormats (formats : List Format) : Registry := formats.foldl register empty

/-- The formats that are always known. -/
def standard : Registry := ofFormats Format.builtins

end Registry

end BuildLog
