import BuildLog.Attributes

/-! Elements of an XML document. -/
namespace BuildLog.Xml

/-- The name of an element that belongs to a namespace stands behind the namespace in braces.
The text is the one before the first child. -/
inductive Element where
  | mk (name : String) (attributes : Attributes) (text : String) (children : List Element)

namespace Element

def name : Element → String
  | mk name _ _ _ => name

def attributes : Element → Attributes
  | mk _ attributes _ _ => attributes

def text : Element → String
  | mk _ _ text _ => text

def children : Element → List Element
  | mk _ _ _ children => children

/-- The first child of the given name. -/
def child? (e : Element) (name : String) : Option Element := e.children.find? (·.name == name)

mutual

/-- The element and all elements inside it, in the order of their start tags. -/
def all : Element → List Element
  | mk name attributes text children => mk name attributes text children :: allOf children

def allOf : List Element → List Element
  | [] => []
  | e :: rest => e.all ++ allOf rest

end

end BuildLog.Xml.Element
