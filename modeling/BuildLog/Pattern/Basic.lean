import BuildLog.Pattern.CharClass

/-! Patterns as trees. Groups are numbered from one; every tree knows what it matches in a text
of characters, and a choice prefers its left side. -/
namespace BuildLog

namespace Pattern

inductive Anchor where
  | textStart
  | lineStart
  | textEnd
  /-- The end of the text, or the place before a line feed that ends it. -/
  | lastLineEnd
  | lineEnd
  | wordBoundary (ascii : Bool)
  | insideWord (ascii : Bool)
deriving DecidableEq, Repr

/-- How much a repetition takes: as much as it can, as little, or as much without giving back. -/
inductive Greed where
  | greedy
  | lazy
  | possessive
deriving DecidableEq, Repr

inductive Node where
  | empty
  | one (k : CharClass)
  | anchor (a : Anchor)
  | cat (first second : Node)
  | alt (first second : Node)
  | group (index : Nat) (body : Node)
  | reference (index : Nat) (fold : Fold)
  | ahead (negated : Bool) (body : Node)
  /-- The text of fixed length before the position. -/
  | behind (negated : Bool) (length : Nat) (body : Node)
  | ifGroup (index : Nat) (whenSet whenUnset : Node)
  | atomic (body : Node)
  /-- A repeated character; no upper limit if `most` is `none`. -/
  | run (greed : Greed) (least : Nat) (most : Option Nat) (k : CharClass)
  | loop (greed : Greed) (least : Nat) (most : Option Nat) (body : Node)
deriving Repr

namespace Node

def seq (nodes : List Node) : Node :=
  match nodes with
  | [] => .empty
  | [node] => node
  | node :: rest => .cat node (seq rest)

def choice (nodes : List Node) : Node :=
  match nodes with
  | [] => .empty
  | [node] => node
  | node :: rest => .alt node (choice rest)

def char (c : Char) : Node := .one (.char c)

def literal (s : String) : Node := seq (s.toList.map char)

/-- The text in any case. -/
def literalAnyCase (s : String) : Node :=
  seq (s.toList.map fun c => .one { items := [.one c.toNat], fold := .unicode })

def literals (words : List String) : Node := choice (words.map literal)

/-- A repetition; of a single character it needs no memory of earlier rounds. -/
def repeated (greed : Greed) (least : Nat) (most : Option Nat) : Node → Node
  | .one k => .run greed least most k
  | body => .loop greed least most body

def many1 (k : CharClass) : Node := .run .greedy 1 none k

def many (k : CharClass) : Node := .run .greedy 0 none k

def exactly (n : Nat) (k : CharClass) : Node := .run .greedy n (some n) k

def between (least most : Nat) (k : CharClass) : Node := .run .greedy least (some most) k

def optional (body : Node) : Node := repeated .greedy 0 (some 1) body

end Node

end Pattern

/-- A compiled pattern: the text it was read from, the number of its groups, and the names of
groups in the order of their numbers. -/
structure Pattern where
  source : String
  root : Pattern.Node
  groups : Nat
  names : List (String × Nat)
deriving Repr

/-- A pattern that was not read from a text; named groups are numbered from one on. -/
def Pattern.ofNode (names : List String) (root : Pattern.Node) : Pattern where
  source := ""
  root := root
  groups := names.length
  names := names.mapIdx fun i name => (name, i + 1)

end BuildLog
