import BuildLog.Xml.Element
import BuildLog.Xml.Entity

/-! Documents: a declaration, a document type and one element, with comments and instructions
around it. Names are resolved against the namespaces declared around them. -/
namespace BuildLog.Xml

open Text

/-- Prefixes with their namespaces, the innermost first; the empty prefix is that of names
without one. -/
abbrev Namespaces := List (List Char × List Char)

/-- A name as written, cut at its colon. -/
structure Qualified where
  space : Option (List Char)
  local_ : List Char
deriving DecidableEq

/-- An element whose end has not been read. -/
structure Open where
  written : Option Qualified
  name : String
  attributes : Attributes
  namespaces : Namespaces
  /-- Last first. -/
  text : List Char := []
  /-- Last first. -/
  children : List Element := []

namespace Open

def close (o : Open) : Element :=
  .mk o.name o.attributes (String.ofList o.text.reverse) o.children.reverse

/-- Text counts as long as there is no child. -/
def addText (o : Open) (cs : List Char) : Open :=
  if o.children.isEmpty then { o with text := cs.reverse ++ o.text } else o

def addChild (o : Open) (e : Element) : Open := { o with children := e :: o.children }

end Open

/-- One prefix needs no declaration. -/
def predeclared : Namespaces := [("xml".toList, "xml".toList)]

def spaceKeyword : List Char := "xmlns".toList

/-- The name with its namespace in braces in front. -/
def expanded (space local_ : List Char) : List Char :=
  if space.isEmpty then local_ else '\x7b' :: space ++ '\x7d' :: local_

/-- A name of an element; the namespace of names without prefix counts. -/
def elementName? (n : Qualified) (spaces : Namespaces) : Option (List Char) :=
  match n.space with
  | none => some (expanded ((spaces.lookup []).getD []) n.local_)
  | some p => (spaces.lookup p).map fun space => expanded space n.local_

/-- A name of an attribute; without prefix it has no namespace. -/
def attributeName? (n : Qualified) (spaces : Namespaces) : Option (List Char) :=
  match n.space with
  | none => some n.local_
  | some p => (spaces.lookup p).map fun space => expanded space n.local_

/-- The prefix that an attribute declares. -/
def declaredPrefix? (n : Qualified) : Option (List Char) :=
  match n.space with
  | none => if n.local_ == spaceKeyword then some [] else none
  | some p => if p == spaceKeyword then some n.local_ else none

/-- A prefix cannot be taken back, and one is reserved. -/
def isDeclarable (declared space : List Char) : Bool :=
  declared.isEmpty || (!space.isEmpty && declared != spaceKeyword)

/-- An element from its start tag. No attribute may be given twice. -/
def open? (outer : Namespaces) (n : Qualified) (given : List (Qualified × List Char)) :
    Option Open := do
  let declared := given.filterMap fun (a, v) => (declaredPrefix? a).map fun p => (p, v)
  guard (declared.all fun (p, v) => isDeclarable p v)
  guard (given.map (·.1)).Nodup
  let spaces := declared ++ outer
  let attributes ← (given.filter fun (a, _) => (declaredPrefix? a).isNone).mapM fun (a, v) => do
    return (String.ofList (← attributeName? a spaces), String.ofList v)
  guard (attributes.map (·.1)).Nodup
  return {
    written := some n
    name := String.ofList (← elementName? n spaces)
    attributes
    namespaces := spaces }

namespace Read

/-- Read another text to its end. -/
def apart {α : Type} (text : List Char) (r : Read α) : Read α :=
  .ofExcept ((r text).map (·.1))

/-- The value of an attribute up to its quote, or to the end of a replacement. -/
def valueWith (expand : List Char → Read (List Char)) (quote : Option Char) : Read (List Char) :=
  Scan.loop (fun seen c => do
    if some c == quote then return .inr seen.reverse
    else if c == '<' then fail
    else if c == '&' then
      match ← reference with
      | .char c => return .inl (c :: seen)
      | .entity name => return .inl ((← expand name).reverse ++ seen)
    else if isSpace c then
      let _ ← lineEnd c
      return .inl (' ' :: seen)
    else
      require (isAllowed c)
      return .inl (c :: seen))
    (fun seen => if quote.isNone then pure seen.reverse else fail) []

/-- The replacement of an entity inside an attribute, to the given depth of entities. -/
def valueOf : (depth : Nat) → Entities → (name : List Char) → Read (List Char)
  | 0, _, _ => fail
  | depth + 1, e, name =>
    match e.find? name with
    | none => if e.hasHidden && !e.isStandalone then pure [] else fail
    | some .external => fail
    | some (.internal text) => apart text (valueWith (valueOf depth (e.without name)) none)

/-- A name that may have a prefix, of which the first character has been taken. -/
def qualifiedFrom (c : Char) : Read Qualified := do
  require (startsName c)
  let first := c :: (← Scan.takeWhile inName)
  if ← skip? ":" then return ⟨some first, ← name⟩ else return ⟨none, first⟩

def qualified : Read Qualified := do
  match ← Scan.next? with
  | some c => qualifiedFrom c
  | none => fail

/-- A start tag behind its name: the attributes, and whether the element is empty. -/
def startTag (expand : List Char → Read (List Char)) : Read (List (Qualified × List Char) × Bool) :=
  Scan.loop (fun (given, isSpaced) c => do
    if isSpace c then return .inl (given, true)
    else if c == '>' then return .inr (given.reverse, false)
    else if c == '/' then
      exactly ">"
      return .inr (given.reverse, true)
    else
      require isSpaced
      let n ← qualifiedFrom c
      let _ ← spaces
      exactly "="
      let _ ← spaces
      match ← Scan.next? with
      | some q =>
        require (q == '"' || q == '\'')
        return .inl ((n, ← valueWith expand (some q)) :: given, false)
      | none => fail) (fun _ => fail) (([] : List (Qualified × List Char)), false)

/-- Line ends of a section of character data are single line feeds. -/
def plainLines : List Char → List Char
  | [] => []
  | '\r' :: '\n' :: rest => '\n' :: plainLines rest
  | '\r' :: rest => '\n' :: plainLines rest
  | c :: rest => c :: plainLines rest

/-- The innermost open element and those around it. -/
abbrev Nesting := Open × List Open

/-- What a less-than sign begins inside an element; the outermost element may end here. -/
def markup (expand : List Char → Read (List Char)) : Nesting → Read (Nesting ⊕ Element)
  | (current, outer) => do
    if ← skip? "!--" then
      comment
      return .inl (current, outer)
    else if ← skip? "![CDATA[" then
      return .inl (current.addText (plainLines (← until_ "]]>")), outer)
    else if ← skip? "?" then
      instruction
      return .inl (current, outer)
    else if ← skip? "/" then
      let n ← qualified
      let _ ← spaces
      exactly ">"
      require (some n == current.written)
      match outer with
      | [] => return .inr current.close
      | parent :: outer => return .inl (parent.addChild current.close, outer)
    else
      let n ← qualified
      let (given, isEmpty) ← startTag expand
      let o ← ofOption (open? current.namespaces n given)
      return .inl (if isEmpty then (current.addChild o.close, outer) else (o, current :: outer))

/-- The inside of an element, from a state of nesting on. `expand` replaces entities in
attributes, `insert` puts their content into an element. -/
def contentWith {α : Type} (expand : List Char → Read (List Char))
    (insert : List Char → Open → Read Open) (finish : Element → Read α) (atEnd : Nesting → Read α)
    (start : Nesting) : Read α :=
  Scan.loop (fun ((current, outer) : Nesting) c => do
    if c == '<' then
      match ← markup expand (current, outer) with
      | .inl nesting => return .inl nesting
      | .inr e => return .inr (← finish e)
    else if c == '&' then
      match ← reference with
      | .char c => return .inl (current.addText [c], outer)
      | .entity name => return .inl (← insert name current, outer)
    else
      let rest ← Scan.rest
      require (isAllowed c && !(c == ']' && [']', '>'].isPrefixOf rest))
      return .inl (current.addText [← lineEnd c], outer)) atEnd start

/-- The content of an entity put into an element. Elements that begin in it end in it. -/
def inserted : (depth : Nat) → Entities → (name : List Char) → Open → Read Open
  | 0, _, _, _ => fail
  | depth + 1, e, name, o =>
    match e.find? name with
    | some (.internal text) =>
      let inner := e.without name
      let whole := apart text (contentWith (valueOf depth inner) (inserted depth inner)
        (fun _ => fail)
        (fun ((current, outer) : Nesting) => if outer.isEmpty then pure current else fail)
        ({ o with written := none }, []))
      do return { (← whole) with written := o.written }
    | _ => fail

/-- The element that a less-than sign begins. -/
def root (e : Entities) : Read Element := do
  let depth := e.declared.length + 1
  let n ← qualified
  let (given, isEmpty) ← startTag (valueOf depth e)
  let o ← ofOption (open? predeclared n given)
  if isEmpty then return o.close
  else contentWith (valueOf depth e) (inserted depth e) pure (fun _ => fail) (o, [])

/-- A pair of a name and a quoted text in the declaration. -/
def declared? (name : String) : Read (Option (List Char)) := do
  if ← skip? name then
    let _ ← spaces
    exactly "="
    let _ ← spaces
    let value ← quoted
    require (value.all fun c => c.isAlphanum || c == '.' || c == '-' || c == '_')
    return some value
  else return none

/-- The declaration behind its opening; it may say that the document is standalone. -/
def declaration : Read Bool := do
  someSpaces
  require (← declared? "version").isSome
  let isSpaced ← spaces
  let encoding ← if isSpaced then declared? "encoding" else pure none
  require ((encoding.map fun cs => (cs.head?.map Char.isAlpha).getD false).getD true)
  let isSpaced ← if encoding.isSome then spaces else pure isSpaced
  let standalone ← if isSpaced then declared? "standalone" else pure none
  require ((standalone.map fun cs => cs == "yes".toList || cs == "no".toList).getD true)
  let _ ← spaces
  exactly "?>"
  return standalone == some "yes".toList

/-- What stands before the element, and the element. -/
def prolog (e : Entities) : Read Element :=
  Scan.loop (fun ((e, hasType) : Entities × Bool) c => do
    if isSpace c then return .inl (e, hasType)
    else
      require (c == '<')
      if ← skip? "!--" then
        comment
        return .inl (e, hasType)
      else if ← skip? "?" then
        instruction
        return .inl (e, hasType)
      else if ← skip? "!DOCTYPE" then
        require (!hasType)
        return .inl (← documentType e, true)
      else return .inr (← root e)) (fun _ => fail) (e, false)

/-- What stands behind the element. -/
def epilog : Read Unit :=
  Scan.loop (fun _ c => do
    if isSpace c then return .inl ()
    else
      require (c == '<')
      if ← skip? "!--" then
        comment
        return .inl ()
      else
        exactly "?"
        instruction
        return .inl ()) pure ()

def startsDeclaration : List Char → Bool
  | c :: _ => isSpace c
  | [] => false

/-- A document, perhaps behind a byte order mark. -/
def document : Read Element := do
  let _ ← skip? "\ufeff"
  let rest ← Scan.rest
  let isDeclared := "<?xml".toList.isPrefixOf rest && startsDeclaration (rest.drop 5)
  let isStandalone ←
    if isDeclared then
      Scan.drop 5
      declaration
    else pure false
  let e ← prolog { isStandalone }
  epilog
  return e

end Read

/-- The outermost element of a document. -/
def read? (s : String) : Option Element :=
  match Read.document s.toList with
  | .ok (e, _) => some e
  | .error _ => none

end BuildLog.Xml
