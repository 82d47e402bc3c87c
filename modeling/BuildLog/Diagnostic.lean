import BuildLog.Decimal.Reading

/-! Compiler diagnostics: `file:line:column: severity: message`, where the column may be
missing. The file name is short and may begin with a drive letter and a colon. -/
namespace BuildLog

open Text

structure Location where
  file : String
  line : Int
  /-- -1 if there is none. -/
  column : Int
deriving DecidableEq

namespace Location

def longestFile : Nat := 500

/-- The first colon before a digit, from position `i` on. The colon after a drive letter is
passed over. -/
def colonFrom (drive : Bool) (i : Nat) : List Char → Option Nat
  | ':' :: d :: rest =>
    if isDigit d && !(i == 1 && drive) then some i else colonFrom drive (i + 1) (d :: rest)
  | _ :: rest => colonFrom drive (i + 1) rest
  | [] => none

def startsWithLetter : List Char → Bool
  | c :: _ => isLetter c
  | [] => false

/-- The colon that ends the file name; it is looked for near the beginning only. -/
def fileEnd? (cs : List Char) : Option Nat :=
  (colonFrom (startsWithLetter cs) 0 (cs.take (longestFile + 20))).filter fun i =>
    0 < i && i ≤ longestFile

/-- The text before the first colon and the text after it. -/
def beforeColon? (cs : List Char) : Option (List Char × List Char) :=
  match cs.dropWhile (· != ':') with
  | [] => none
  | _ :: rest => some (cs.takeWhile (· != ':'), rest)

/-- The value of a text of digits. -/
def number? (cs : List Char) : Except Decimal.Error (Option Int) :=
  if cs.isEmpty || !cs.all isDigit then .ok none else Decimal.boundedPrefix 32 cs

/-- The number before the first colon, -1 if none stands there. -/
def columnNumber (cs : List Char) : Except Decimal.Error Int :=
  match beforeColon? cs with
  | none => .ok (-1)
  | some (digits, _) => (number? digits).map (·.getD (-1))

/-- The location at the beginning of a line. -/
def read? (line : List Char) : Except Decimal.Error (Option Location) :=
  match fileEnd? line with
  | none => .ok none
  | some i =>
    match beforeColon? (line.drop (i + 1)) with
    | none => .ok none
    | some (digits, rest) => do
      match ← number? digits with
      | none => return none
      | some n => return some ⟨String.ofList (line.take i), n, ← columnNumber rest⟩

end Location

structure Diagnostic where
  location : Location
  severity : String
  message : String
deriving DecidableEq

namespace Diagnostic

def severities : List String := ["error", "warning", "note"]

def marker (severity : String) : List Char := ' ' :: severity.toList ++ [':']

/-- The first marker of a severity and the text behind it. -/
def firstMarker? : List Char → Option (String × List Char)
  | [] => none
  | c :: rest =>
    match severities.find? fun s => (marker s).isPrefixOf (c :: rest) with
    | some s => some (s, (c :: rest).drop (marker s).length)
    | none => firstMarker? rest

def read? (line : String) : Except Decimal.Error (Option Diagnostic) := do
  match ← Location.read? line.toList with
  | none => return none
  | some location =>
    return (firstMarker? line.toList).map fun (severity, rest) =>
      ⟨location, severity, String.ofList (trimStart rest)⟩

end BuildLog.Diagnostic
