import BuildLog.Attributes
import BuildLog.Pattern.Match

/-! Finding a pattern in a text: at its beginning, at the first place where it matches, or over
its whole length. -/
namespace BuildLog

namespace Pattern

structure Match where
  text : Array Char
  first : Nat
  last : Nat
  slots : Slots

def slice (text : Array Char) (first last : Nat) : String :=
  String.ofList (text.extract first last).toList

/-- The matched text. -/
def Match.whole (m : Match) : String := slice m.text m.first m.last

/-- The text of a group that took part. -/
def Match.group? (m : Match) (index : Nat) : Option String :=
  (m.slots.span? index).map fun (first, last) => slice m.text first last

end Pattern

open Pattern

def Pattern.matchAt (p : Pattern) (text : Array Char) (position : Nat)
    (finish : Continuation) : Option Match :=
  (p.root.walk text position (Array.replicate (2 * p.groups) none) finish).map fun point =>
    ⟨text, position, point.position, point.slots⟩

/-- The first match that begins no more than `left` characters before the end. -/
def Pattern.searchLast (p : Pattern) (text : Array Char) : (left : Nat) → Option Match
  | 0 => p.matchAt text text.size accept
  | left + 1 =>
    match p.matchAt text (text.size - (left + 1)) accept with
    | some m => some m
    | none => p.searchLast text left

/-- The leftmost match. -/
def Pattern.search (p : Pattern) (s : String) : Option Match :=
  let text := s.toList.toArray
  p.searchLast text text.size

/-- The match at the beginning. -/
def Pattern.matchStart (p : Pattern) (s : String) : Option Match :=
  p.matchAt s.toList.toArray 0 accept

/-- The match that takes the whole text. -/
def Pattern.matchWhole (p : Pattern) (s : String) : Option Match :=
  let text := s.toList.toArray
  p.matchAt text 0 fun position slots =>
    if position == text.size then some ⟨position, slots⟩ else none

def Pattern.finds (p : Pattern) (s : String) : Bool := (p.search s).isSome

/-- Lines beyond the limit are not searched. -/
def Pattern.searchWithin (limit : Int) (p : Pattern) (s : String) : Option Match :=
  if limit < s.length then none else p.search s

def Pattern.matchWithin (limit : Int) (p : Pattern) (s : String) : Option Match :=
  if limit < s.length then none else p.matchStart s

/-- The named groups in the order of their numbers. -/
def Pattern.named (p : Pattern) (m : Match) : List (String × Option String) :=
  p.names.map fun (name, index) => (name, m.group? index)

/-- The named groups that took part. -/
def Pattern.captures (p : Pattern) (m : Match) : Attributes :=
  (p.named m).filterMap fun (name, value) => value.map (name, ·)

/-- The text of a named group, empty if it took no part. -/
def Pattern.capture (p : Pattern) (m : Match) (name : String) : String :=
  (p.captures m).get name

end BuildLog
