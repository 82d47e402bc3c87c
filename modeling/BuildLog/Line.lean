import BuildLog.Text.Search

/-! Lines of a log. A line ends with a line feed, a carriage return or both in this order; the
terminator is no part of it. A line longer than the limit is cut and closed by three points. -/
namespace BuildLog

structure Line where
  /-- Counted from one. -/
  number : Nat
  text : String
  isCut : Bool

namespace Line

def normalizeChars : List Char → List Char
  | [] => []
  | '\r' :: '\n' :: rest => '\n' :: normalizeChars rest
  | '\r' :: rest => '\n' :: normalizeChars rest
  | c :: rest => c :: normalizeChars rest

/-- The text with a line feed as its only terminator. -/
def normalize (s : String) : String := String.ofList (normalizeChars s.toList)

/-- The first terminator, or the empty text. It is told by the places of the first line feed and
the first carriage return. -/
def firstEnding (s : String) : String :=
  let cs := s.toList
  match Text.find? ['\n'] cs, Text.find? ['\r'] cs with
  | none, none => ""
  | some _, none => "\n"
  | feed?, some back =>
    if feed?.any (· < back) then "\n"
    else if (cs.drop back).take 2 == ['\r', '\n'] then "\r\n"
    else "\r"

/-- The lines of a text; `current` holds the characters of the line being read, last first.
What follows the last terminator is a line only if it is not empty. -/
def splitFrom (current : List Char) : List Char → List (List Char)
  | [] => if current.isEmpty then [] else [current.reverse]
  | '\r' :: '\n' :: rest => current.reverse :: splitFrom [] rest
  | '\r' :: rest => current.reverse :: splitFrom [] rest
  | '\n' :: rest => current.reverse :: splitFrom [] rest
  | c :: rest => splitFrom (c :: current) rest

def split (cs : List Char) : List (List Char) := splitFrom [] cs

def cutMark : List Char := ['.', '.', '.']

def defaultLimit : Int := 2000

/-- A line holds at least one character besides the mark of a cut. -/
def effectiveLimit (limit : Int) : Nat := (max limit 4).toNat

/-- A line of at most `limit` characters. -/
def capped (limit : Nat) (number : Nat) (cs : List Char) : Line :=
  if limit < cs.length then
    ⟨number, String.ofList (cs.take (limit - cutMark.length) ++ cutMark), true⟩
  else ⟨number, String.ofList cs, false⟩

/-- The lines of a text under a limit. -/
def read (limit : Int) (content : String) : List Line :=
  (split content.toList).mapIdx fun i cs => capped (effectiveLimit limit) (i + 1) cs

end BuildLog.Line
