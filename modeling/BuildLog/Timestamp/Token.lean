import BuildLog.Text.Blank
import BuildLog.Text.Digits

/-! Cutting a timestamp into words, numbers and single signs. A point continues a word or a
number; a run of points and pieces that turns out to be no decimal number is cut at its points. -/
namespace BuildLog.Timestamp

open Text

abbrev Token := List Char

inductive Shape where
  | word
  | number
  | pointedWord
  | pointedNumber
deriving DecidableEq

def Shape.isWord : Shape → Bool
  | .word | .pointedWord => true
  | .number | .pointedNumber => false

def Shape.isPointed : Shape → Bool
  | .pointedWord | .pointedNumber => true
  | .word | .number => false

/-- A token that may go on; its characters stand last first. -/
structure Growing where
  shape : Shape
  chars : List Char
  /-- A character was looked at while the token was a word. -/
  wasWord : Bool

/-- The token after one more character, if that belongs to it. A comma may stand for a decimal
point behind two digits. -/
def Growing.extend? (g : Growing) (c : Char) : Option Growing :=
  let with_ (shape : Shape) : Option Growing :=
    some ⟨shape, c :: g.chars, g.wasWord || g.shape.isWord⟩
  match g.shape with
  | .word =>
    if isLetter c then with_ .word else if c == '.' then with_ .pointedWord else none
  | .number =>
    if isDigit c then with_ .number
    else if c == '.' || (c == ',' && 2 ≤ g.chars.length) then with_ .pointedNumber
    else none
  | .pointedWord =>
    if c == '.' || isLetter c then with_ .pointedWord
    else if isDigit c && g.chars.head? == some '.' then with_ .pointedNumber
    else none
  | .pointedNumber =>
    if c == '.' || isDigit c then with_ .pointedNumber
    else if isLetter c && g.chars.head? == some '.' then with_ .pointedWord
    else none

def isPoint (c : Char) : Bool := c == '.' || c == ','

/-- The pieces between points, and the points themselves. -/
def cutAtPoints : List Char → List Token
  | [] => []
  | c :: rest =>
    if isPoint c then [c] :: cutAtPoints rest
    else
      match cutAtPoints rest with
      | (d :: word) :: more =>
        if isPoint d then [c] :: (d :: word) :: more else (c :: d :: word) :: more
      | tokens => [c] :: tokens

/-- A token at its end. -/
def Growing.finish (g : Growing) : List Token :=
  let cs := g.chars.reverse
  let endsInPoint := (g.chars.head?.map isPoint).getD false
  if g.shape.isPointed && (g.wasWord || 1 < cs.count '.' || endsInPoint) then cutAtPoints cs
  else if g.shape == .pointedNumber && !cs.contains '.' then
    [cs.map fun c => if c == ',' then '.' else c]
  else [cs]

def tokensFrom (growing : Option Growing) : List Char → List Token
  | [] => (growing.map Growing.finish).getD []
  | c :: rest =>
    match growing.bind (·.extend? c) with
    | some g => tokensFrom (some g) rest
    | none =>
      let before :=
        (growing.map fun g => { g with wasWord := g.wasWord || g.shape.isWord }.finish).getD []
      if isLetter c then before ++ tokensFrom (some ⟨.word, [c], false⟩) rest
      else if isDigit c then before ++ tokensFrom (some ⟨.number, [c], false⟩) rest
      else if isBlank c then before ++ [' '] :: tokensFrom none rest
      else before ++ [c] :: tokensFrom none rest

/-- The tokens of a text; the character zero is passed over. -/
def tokens (cs : List Char) : List Token := tokensFrom none (cs.filter (·.toNat != 0))

end BuildLog.Timestamp
