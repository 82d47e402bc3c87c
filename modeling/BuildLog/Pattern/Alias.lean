/-! A second spelling of named groups: `(?<name>` is read as `(?P<name>`. A look behind begins
in the same way, but no name follows. -/
namespace BuildLog.Pattern

def opensName (c : Char) : Bool := c.isAlpha || c == '_'

def expandAlias : List Char → List Char
  | '(' :: '?' :: '<' :: c :: rest =>
    if opensName c then '(' :: '?' :: 'P' :: '<' :: expandAlias (c :: rest)
    else '(' :: expandAlias ('?' :: '<' :: c :: rest)
  | c :: rest => c :: expandAlias rest
  | [] => []

end BuildLog.Pattern
