import BuildLog.Pattern.Basic

/-! Matching by search with a way back. The first way that succeeds counts: left before right in
a choice, more before less in a greedy repetition and less before more in a lazy one. A round of
a repetition that takes no text is the last one. -/
namespace BuildLog.Pattern

/-- The edges of the groups: group `i` begins at slot `2 i - 2` and ends at slot `2 i - 1`. -/
abbrev Slots := Array (Option Nat)

structure Point where
  position : Nat
  slots : Slots

abbrev Continuation := Nat → Slots → Option Point

def accept : Continuation := fun position slots => some ⟨position, slots⟩

/-- The edges of a group that took part. -/
def Slots.span? (slots : Slots) (index : Nat) : Option (Nat × Nat) := do
  let first ← (slots[2 * index - 2]?).join
  let last ← (slots[2 * index - 1]?).join
  if first ≤ last then some (first, last) else none

def isWordAt (text : Array Char) (ascii : Bool) (position : Nat) : Bool :=
  (text[position]?.map (Category.has ascii · .word)).getD false

/-- Word characters on exactly one side of the position. -/
def isBoundary (text : Array Char) (ascii : Bool) (position : Nat) : Bool :=
  (0 < position && isWordAt text ascii (position - 1)) != isWordAt text ascii position

/-- An empty text has neither boundaries nor places inside of words. -/
def Anchor.holds (text : Array Char) (position : Nat) : Anchor → Bool
  | .textStart => position == 0
  | .lineStart => position == 0 || text[position - 1]? == some '\n'
  | .textEnd => position == text.size
  | .lastLineEnd =>
    position == text.size || (position + 1 == text.size && text[position]? == some '\n')
  | .lineEnd => position == text.size || text[position]? == some '\n'
  | .wordBoundary ascii => text.size != 0 && isBoundary text ascii position
  | .insideWord ascii => text.size != 0 && !isBoundary text ascii position

/-- The number of characters from a position on, at most `limit`, that are in a class. -/
def runLength (text : Array Char) (k : CharClass) (position : Nat) : (limit : Nat) → Nat
  | 0 => 0
  | limit + 1 =>
    match text[position]? with
    | some c => if k.has c then runLength text k (position + 1) limit + 1 else 0
    | none => 0

/-- Continue after `n` characters, else after fewer. -/
def giveBack (next : Nat → Option α) : (n : Nat) → Option α
  | 0 => next 0
  | n + 1 =>
    match next (n + 1) with
    | some found => some found
    | none => giveBack next n

/-- Continue after `taken` characters, else after more, up to `extra` of them. -/
def takeMore (next : Nat → Option α) (taken : Nat) : (extra : Nat) → Option α
  | 0 => next taken
  | extra + 1 =>
    match next taken with
    | some found => some found
    | none => takeMore next (taken + 1) extra

def matchRun (text : Array Char) (greed : Greed) (least : Nat) (most : Option Nat)
    (k : CharClass) (position : Nat) (next : Nat → Option α) : Option α :=
  let left := text.size - position
  let n := runLength text k position ((most.getD left).min left)
  if n < least then none
  else match greed with
    | .greedy => giveBack (fun extra => next (position + least + extra)) (n - least)
    | .lazy => takeMore (fun taken => next (position + taken)) least (n - least)
    | .possessive => next (position + n)

/-- Text equal to an earlier piece. -/
def sameText (text : Array Char) (fold : Fold) (first position : Nat) : (length : Nat) → Bool
  | 0 => true
  | length + 1 =>
    match text[first]?, text[position]? with
    | some a, some b =>
      (match fold with
        | .exact => a == b
        | .ascii => a.toLower == b.toLower
        | .unicode => Text.lowerChar a == Text.lowerChar b) &&
        sameText text fold (first + 1) (position + 1) length
    | _, _ => false

def below (count : Nat) (most : Option Nat) : Bool :=
  (most.map fun m => decide (count < m)).getD true

/-- Rounds of a greedy repetition of `body`, of which `count` are done. `last` is the position
before the latest round beyond the least number; every further round takes text, so that
`budget` rounds are enough. -/
def greedyRounds (body : Nat → Slots → Continuation → Option Point) (least : Nat)
    (most : Option Nat) (next : Continuation) :
    (budget count : Nat) → (last : Option Nat) → Continuation
  | 0, _, _, _, _ => none
  | budget + 1, count, last, position, slots =>
    if count < least then
      body position slots (greedyRounds body least most next budget (count + 1) last)
    else if below count most && last != some position then
      match body position slots
        (greedyRounds body least most next budget (count + 1) (some position)) with
      | some found => some found
      | none => next position slots
    else next position slots

def lazyRounds (body : Nat → Slots → Continuation → Option Point) (least : Nat)
    (most : Option Nat) (next : Continuation) :
    (budget count : Nat) → (last : Option Nat) → Continuation
  | 0, _, _, _, _ => none
  | budget + 1, count, last, position, slots =>
    if count < least then
      body position slots (lazyRounds body least most next budget (count + 1) last)
    else
      match next position slots with
      | some found => some found
      | none =>
        if below count most && last != some position then
          body position slots
            (lazyRounds body least most next budget (count + 1) (some position))
        else none

/-- Rounds that are not given back once they matched. -/
def possessiveRounds (body : Nat → Slots → Option Point) (least : Nat) (most : Option Nat) :
    (budget count : Nat) → (last : Option Nat) → Continuation
  | 0, _, _, _, _ => none
  | budget + 1, count, last, position, slots =>
    if count < least then
      match body position slots with
      | some p => possessiveRounds body least most budget (count + 1) last p.position p.slots
      | none => none
    else if below count most && last != some position then
      match body position slots with
      | some p =>
        possessiveRounds body least most budget (count + 1) (some position) p.position p.slots
      | none => accept position slots
    else accept position slots

def matchRounds (text : Array Char) (greed : Greed) (least : Nat) (most : Option Nat)
    (body : Nat → Slots → Continuation → Option Point) (position : Nat) (slots : Slots)
    (next : Continuation) : Option Point :=
  let budget := least + (text.size - position) + 3
  match greed with
  | .greedy => greedyRounds body least most next budget 0 none position slots
  | .lazy => lazyRounds body least most next budget 0 none position slots
  | .possessive =>
    match possessiveRounds (fun p s => body p s accept) least most budget 0 none position slots with
    | some p => next p.position p.slots
    | none => none

/-- Match a tree at a position and continue behind it. -/
def Node.walk (text : Array Char) : Node → Nat → Slots → Continuation → Option Point
  | .empty, position, slots, next => next position slots
  | .one k, position, slots, next =>
    match text[position]? with
    | some c => if k.has c then next (position + 1) slots else none
    | none => none
  | .anchor a, position, slots, next =>
    if a.holds text position then next position slots else none
  | .cat first second, position, slots, next =>
    first.walk text position slots fun p s => second.walk text p s next
  | .alt first second, position, slots, next =>
    match first.walk text position slots next with
    | some found => some found
    | none => second.walk text position slots next
  | .group index body, position, slots, next =>
    body.walk text position (slots.setIfInBounds (2 * index - 2) (some position)) fun p s =>
      next p (s.setIfInBounds (2 * index - 1) (some p))
  | .reference index fold, position, slots, next =>
    match slots.span? index with
    | some (first, last) =>
      if sameText text fold first position (last - first) then
        next (position + (last - first)) slots
      else none
    | none => none
  | .ahead negated body, position, slots, next =>
    match body.walk text position slots accept with
    | some p => if negated then none else next position p.slots
    | none => if negated then next position slots else none
  | .behind negated length body, position, slots, next =>
    let found := if position < length then none
      else body.walk text (position - length) slots accept
    match found with
    | some p => if negated then none else next position p.slots
    | none => if negated then next position slots else none
  | .ifGroup index whenSet whenUnset, position, slots, next =>
    if (slots.span? index).isSome then whenSet.walk text position slots next
    else whenUnset.walk text position slots next
  | .atomic body, position, slots, next =>
    match body.walk text position slots accept with
    | some p => next p.position p.slots
    | none => none
  | .run greed least most k, position, slots, next =>
    matchRun text greed least most k position fun p => next p slots
  | .loop greed least most body, position, slots, next =>
    matchRounds text greed least most (fun p s n => body.walk text p s n) position slots next

end BuildLog.Pattern
