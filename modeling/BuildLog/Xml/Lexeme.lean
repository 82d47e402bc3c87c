import BuildLog.Decimal.Reading
import BuildLog.Scan
import BuildLog.Text.Search
import BuildLog.Xml.Names

/-! The small parts of XML documents: names, references, comments, instructions, character data
sections and quoted literals. A reader stands behind the characters that announce the part. -/
namespace BuildLog.Xml

open Text

/-- A text is a document or it is none; where it fails is not told. -/
abbrev Read := Scan Char Unit

namespace Read

def fail {α : Type} : Read α := Scan.fail ()

def ofOption {α : Type} : Option α → Read α
  | some a => pure a
  | none => fail

def require (b : Bool) : Read Unit := if b then pure () else fail

/-- Exactly this text. -/
def exactly (s : String) : Read Unit := do
  let rest ← Scan.rest
  if s.toList.isPrefixOf rest then Scan.drop s.length else fail

/-- This text if it stands here. -/
def skip? (s : String) : Read Bool := do
  let rest ← Scan.rest
  if s.toList.isPrefixOf rest then
    Scan.drop s.length
    pure true
  else pure false

/-- Spaces, and whether there are any. -/
def spaces : Read Bool := do
  let run ← Scan.takeWhile isSpace
  pure (!run.isEmpty)

def someSpaces : Read Unit := do require (← spaces)

/-- A name without colon. -/
def name : Read (List Char) := do
  let cs ← Scan.takeWhile inName
  match cs with
  | c :: _ => if startsName c then pure cs else fail
  | [] => fail

/-- The characters before the given text, which is taken too. All must be allowed. -/
def until_ (ending : String) : Read (List Char) := do
  let rest ← Scan.rest
  match find? ending.toList rest with
  | none => fail
  | some n =>
    let cs := rest.take n
    require (cs.all isAllowed)
    Scan.drop (n + ending.length)
    pure cs

/-- A comment behind its opening; two hyphens inside end it. -/
def comment : Read Unit := do
  let _ ← until_ "--"
  exactly ">"

/-- The target of an instruction, in which the letters of the declaration are reserved. -/
def target : Read Unit := do
  let cs ← name
  require (cs.map Char.toLower != ['x', 'm', 'l'])

/-- A processing instruction behind its opening. -/
def instruction : Read Unit := do
  target
  if ← skip? "?>" then pure () else
    someSpaces
    let _ ← until_ "?>"

/-- A quoted literal without regard to what stands in it. -/
def quoted : Read (List Char) := do
  match ← Scan.next? with
  | some '"' => until_ "\""
  | some '\'' => until_ "'"
  | _ => fail

/-- A reference to a character by its number. -/
def numbered : Read Char := do
  let isHex ← skip? "x"
  let digits ← Scan.takeWhile fun c => if isHex then c.isDigit || isHexLetter c else c.isDigit
  require (!digits.isEmpty)
  exactly ";"
  let n := digits.foldl (fun n c => (if isHex then 16 else 10) * n + digitValue c) 0
  let c := Char.ofNat n
  require (n.isValidChar && isAllowed c && n != 0)
  pure c
where
  isHexLetter (c : Char) : Bool := ('a' ≤ c && c ≤ 'f') || ('A' ≤ c && c ≤ 'F')
  digitValue (c : Char) : Nat := if c.isDigit then c.toNat - 48 else c.toLower.toNat - 87

end Read

/-- Entities that need no declaration. -/
def predefined : List (List Char × Char) :=
  [("lt".toList, '<'), ("gt".toList, '>'), ("amp".toList, '&'), ("quot".toList, '"'),
    ("apos".toList, '\'')]

inductive Reference where
  | char (c : Char)
  | entity (name : List Char)

/-- A reference behind its ampersand. -/
def Read.reference : Read Reference := do
  if ← skip? "#" then return .char (← numbered)
  let name ← name
  exactly ";"
  match predefined.lookup name with
  | some c => return .char c
  | none => return .entity name

/-- A line ends with one line feed, however it is written; `c` has just been taken. -/
def Read.lineEnd (c : Char) : Read Char := do
  if c == '\r' then
    let _ ← skip? "\n"
    return '\n'
  else return c

end BuildLog.Xml
