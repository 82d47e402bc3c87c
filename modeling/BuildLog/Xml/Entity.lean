import BuildLog.Xml.Lexeme

/-! Entities and the document type that declares them. An external entity is not read, and what
stands behind a reference to a parameter entity may be declared there. -/
namespace BuildLog.Xml

inductive Replacement where
  | internal (text : List Char)
  | external

structure Entities where
  declared : List (List Char × Replacement) := []
  /-- Entities may have been declared out of sight. -/
  hasHidden : Bool := false
  /-- Declarations out of sight do not matter. -/
  isStandalone : Bool := false
  /-- A parameter entity has been passed, so declarations count no more. -/
  isBlind : Bool := false

namespace Entities

def find? (e : Entities) (name : List Char) : Option Replacement := e.declared.lookup name

/-- The entities that may be used inside the replacement of one of them. -/
def without (e : Entities) (name : List Char) : Entities :=
  { e with declared := e.declared.filter (·.1 != name) }

/-- The first declaration of a name counts. -/
def declare (e : Entities) (name : List Char) (r : Replacement) : Entities :=
  if e.isBlind || (e.find? name).isSome then e else { e with declared := e.declared ++ [(name, r)] }

def afterParameter (e : Entities) : Entities :=
  { e with hasHidden := true, isBlind := e.isBlind || !e.isStandalone }

end Entities

namespace Read

/-- The literal of an entity, in which references to characters are replaced. -/
def entityValue (quote : Char) : Read (List Char) :=
  Scan.loop (fun seen c => do
    if c == quote then return .inr seen.reverse
    else if c == '%' then fail
    else if c == '&' then
      if ← skip? "#" then return .inl ((← numbered) :: seen)
      else
        let cs ← name
        exactly ";"
        return .inl (';' :: cs.reverse ++ '&' :: seen)
    else
      require (isAllowed c)
      return .inl ((← lineEnd c) :: seen)) (fun _ => fail) []

/-- Where an external document is found. -/
def externalId? : Read Bool := do
  if ← skip? "SYSTEM" then
    someSpaces
    let _ ← quoted
    return true
  else if ← skip? "PUBLIC" then
    someSpaces
    let _ ← quoted
    someSpaces
    let _ ← quoted
    return true
  else return false

/-- The rest of an entity's declaration behind its name. -/
def replacement : Read Replacement := do
  if ← externalId? then
    if ← spaces then
      if ← skip? "NDATA" then
        someSpaces
        let _ ← name
    return .external
  else
    match ← Scan.next? with
    | some '"' => return .internal (← entityValue '"')
    | some '\'' => return .internal (← entityValue '\'')
    | _ => fail

/-- The declaration of an entity behind its keyword. -/
def entityDeclaration (e : Entities) : Read Entities := do
  someSpaces
  let isParameter ← skip? "%"
  if isParameter then someSpaces
  let name ← name
  someSpaces
  let r ← replacement
  let _ ← spaces
  exactly ">"
  return if isParameter then e else e.declare name r

/-- A declaration that does not matter here, up to its end. -/
def otherDeclaration : Read Unit := do
  someSpaces
  Scan.loop (fun _ c => do
    if c == '>' then return .inr ()
    else if c == '"' then
      let _ ← until_ "\""
      return .inl ()
    else if c == '\'' then
      let _ ← until_ "'"
      return .inl ()
    else
      require (isAllowed c && c != '<')
      return .inl ()) (fun _ => fail) ()

/-- Declarations up to the closing bracket. -/
def declarations (e : Entities) : Read Entities :=
  Scan.loop (fun (e : Entities) c => do
    if isSpace c then return .inl e
    else if c == ']' then return .inr e
    else if c == '%' then
      let _ ← name
      exactly ";"
      return .inl e.afterParameter
    else if c == '<' then
      if ← skip? "!--" then
        comment
        return .inl e
      else if ← skip? "?" then
        instruction
        return .inl e
      else if ← skip? "!ENTITY" then return .inl (← entityDeclaration e)
      else if ← skip? "!ELEMENT" then
        otherDeclaration
        return .inl e
      else if ← skip? "!ATTLIST" then
        otherDeclaration
        return .inl e
      else if ← skip? "!NOTATION" then
        otherDeclaration
        return .inl e
      else fail
    else fail) (fun _ => fail) e

/-- A document type behind its keyword. -/
def documentType (e : Entities) : Read Entities := do
  someSpaces
  let _ ← name
  if ← skip? ":" then
    let _ ← name
  let isSpaced ← spaces
  let isExternal ← if isSpaced then externalId? else pure false
  let e := { e with hasHidden := e.hasHidden || isExternal }
  let _ ← spaces
  let e ← if ← skip? "[" then declarations e else pure e
  let _ ← spaces
  exactly ">"
  return e

end Read

end BuildLog.Xml
