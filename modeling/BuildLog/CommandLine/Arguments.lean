import BuildLog.Text.Digits
import BuildLog.Text.Search

/-! Arguments of the command line. A long option may be shortened as long as it stays the only
one; short options may be written together, and a value may follow its option at once. -/
namespace BuildLog.CommandLine

open Text

inductive Switch where
  | help
  | format
  | config
  | detect
  | diagnose
  | listFormats
  | verbose
deriving DecidableEq

namespace Switch

def takesValue : Switch → Bool
  | .format | .config => true
  | _ => false

def longNames : List (String × Switch) :=
  [("--help", .help), ("--format", .format), ("--config", .config), ("--detect", .detect),
    ("--diagnose", .diagnose), ("--list-formats", .listFormats), ("--verbose", .verbose)]

def shortNames : List (Char × Switch) :=
  [('h', .help), ('f', .format), ('c', .config), ('v', .verbose)]

end Switch

def usage : String :=
  "usage: buildlog [-h] [-f FORMAT] [-c CONFIG] [--detect] [--diagnose] [--list-formats] [-v] [file]"

/-- Why the arguments are not carried out. -/
inductive Refusal where
  | misuse
  | help
deriving DecidableEq

/-- An argument by itself. -/
inductive Word where
  | value (text : String)
  /-- Two hyphens: what follows is no option. -/
  | separator
  | long (s : Switch) (value : Option String)
  /-- A short option and what is written behind it. -/
  | short (s : Switch) (tail : Option String)
  | unknown
deriving DecidableEq

namespace Word

/-- A long name, or the beginning of exactly one. -/
def longSwitch? (name : String) : Except Refusal (Option Switch) :=
  match Switch.longNames.lookup name with
  | some s => .ok (some s)
  | none =>
    match Switch.longNames.filter fun entry => startsWith entry.1 name with
    | [] => .ok none
    | [(_, s)] => .ok (some s)
    | _ => .error .misuse

/-- A negative number is no option. -/
def isNegativeNumber (cs : List Char) : Bool :=
  match cs with
  | '-' :: rest =>
    let fraction := rest.dropWhile isDecimal
    match fraction with
    | [] => !rest.isEmpty
    | '.' :: digits => !digits.isEmpty && digits.all isDecimal
    | _ => false
  | _ => false

/-- What looks like an option and is none. -/
def other (text : String) : Word :=
  if isNegativeNumber text.toList || text.contains ' ' then .value text else .unknown

/-- A text cut at its first equals sign. -/
def cutAtEquals (cs : List Char) : List Char × Option (List Char) :=
  match cs.dropWhile (· != '=') with
  | [] => (cs, none)
  | _ :: behind => (cs.takeWhile (· != '='), some behind)

def ofText (text : String) : Except Refusal Word :=
  match text.toList with
  | '-' :: '-' :: rest =>
    let (name, given) := cutAtEquals ('-' :: '-' :: rest)
    (longSwitch? (String.ofList name)).map fun s? =>
      match s? with
      | some s => .long s (given.map String.ofList)
      | none => other text
  | '-' :: c :: tail =>
    match Switch.shortNames.lookup c with
    | some s =>
      let tail :=
        match tail with
        | [] => none
        | '=' :: given => some given
        | _ => some tail
      .ok (.short s (tail.map String.ofList))
    | none => .ok (other text)
  | _ => .ok (.value text)

/-- The words of the arguments. -/
def ofTexts : List String → Except Refusal (List Word)
  | [] => .ok []
  | text :: rest => do
    if text == "--" then return .separator :: rest.map .value
    let word ← ofText text
    return word :: (← ofTexts rest)

end Word

structure Arguments where
  file : Option String := none
  format : String := "auto"
  configs : List String := []
  detect : Bool := false
  diagnose : Bool := false
  listFormats : Bool := false

namespace Arguments

def setFlag (a : Arguments) : Switch → Except Refusal Arguments
  | .help => .error .help
  | .detect => .ok { a with detect := true }
  | .diagnose => .ok { a with diagnose := true }
  | .listFormats => .ok { a with listFormats := true }
  | _ => .ok a

def setValue (a : Arguments) (value : String) : Switch → Arguments
  | .format => { a with format := value }
  | .config => { a with configs := a.configs ++ [value] }
  | _ => a

/-- Short options written together: flags, and at the end perhaps an option with its value, which
is missing if nothing stands behind it. -/
def splitTail (s : Switch) :
    (tail : List Char) → Except Refusal (List Switch × Switch × Option String)
  | [] => .ok ([], s, none)
  | c :: tail =>
    if s.takesValue then .ok ([], s, some (String.ofList (c :: tail)))
    else
      match Switch.shortNames.lookup c with
      | some next => (splitTail next tail).map fun (flags, last) => (s :: flags, last)
      | none => .error .misuse

/-- An option whose value, if it takes one, may be the next word; the words that are left. -/
def apply (a : Arguments) (s : Switch) (value : Option String) (rest : List Word) :
    Except Refusal (Arguments × { r : List Word // r.length ≤ rest.length }) :=
  match s.takesValue, value with
  | true, some value => .ok (a.setValue value s, ⟨rest, Nat.le_refl _⟩)
  | true, none =>
    match rest with
    | .value v :: more => .ok (a.setValue v s, ⟨more, Nat.le_succ _⟩)
    | _ => .error .misuse
  | false, _ => (a.setFlag s).map fun a => (a, ⟨rest, Nat.le_refl _⟩)

def applyShort (a : Arguments) (s : Switch) (tail : Option String) (rest : List Word) :
    Except Refusal (Arguments × { r : List Word // r.length ≤ rest.length }) := do
  if tail == some "" && !s.takesValue then throw .misuse
  let (flags, last, value) ←
    if tail == some "" then pure ([], s, some "") else splitTail s ((tail.getD "").toList)
  if last.takesValue && value.isNone && !(rest.head? matches some (.value _)) then throw .misuse
  let a ← flags.foldlM setFlag a
  a.apply last value rest

/-- Read the words from left to right. One value is the file; what is left over is told at the
end only, so a call for help comes first. -/
def readFrom (a : Arguments) (hasFile isMisused : Bool) : List Word → Except Refusal Arguments
  | [] => if isMisused then .error .misuse else .ok a
  | .separator :: .value v :: rest =>
    if hasFile then readFrom a true true rest
    else readFrom { a with file := some v } true isMisused rest
  | .separator :: rest => readFrom a true (isMisused || hasFile) rest
  | .value v :: .separator :: rest =>
    if hasFile then readFrom a true true rest
    else readFrom { a with file := some v } true isMisused rest
  | .value v :: rest =>
    if hasFile then readFrom a true true rest
    else readFrom { a with file := some v } true isMisused rest
  | .unknown :: rest => readFrom a hasFile true rest
  | .long s value :: rest =>
    if value.isSome && !s.takesValue then .error .misuse
    else
      match a.apply s value rest with
      | .error e => .error e
      | .ok (a, rest) => readFrom a hasFile isMisused rest.1
  | .short s tail :: rest =>
    match a.applyShort s tail rest with
    | .error e => .error e
    | .ok (a, rest) => readFrom a hasFile isMisused rest.1
termination_by words => words.length
decreasing_by all_goals (simp only [List.length_cons]; try have := rest.2); omega

def read (texts : List String) : Except Refusal Arguments := do
  readFrom {} false false (← Word.ofTexts texts)

end Arguments

end BuildLog.CommandLine
