import BuildLog.Pattern.Search

/-! Patterns with `%` for any run of characters and `_` for any single character; line feeds
excepted. All other characters stand for themselves. -/
namespace BuildLog.Pattern.Like

def anyRun : Node := .run .greedy 0 none .anyButLineFeed

def nodeOf (c : Char) : Node :=
  if c == '%' then anyRun
  else if c == '_' then .one .anyButLineFeed
  else .char c

def node (cs : List Char) : Node := .seq (cs.map nodeOf)

/-- Characters with a meaning of their own in patterns. -/
def isSpecial (c : Char) : Bool := "()[]\x7b\x7d?*+-|^$\\.&~# \t\n\r\x0b\x0c".toList.contains c

def sourceOf (c : Char) : List Char :=
  if c == '%' then ['.', '*']
  else if c == '_' then ['.']
  else if isSpecial c then ['\\', c]
  else [c]

/-- The same pattern in the general notation. -/
def source (like : String) : String := String.ofList (like.toList.flatMap sourceOf)

def pattern (like : String) : Pattern := ⟨source like, node like.toList, 0, []⟩

/-- The whole text matches. -/
def accepts (like : String) (s : String) : Bool := ((pattern like).matchWhole s).isSome

end BuildLog.Pattern.Like
