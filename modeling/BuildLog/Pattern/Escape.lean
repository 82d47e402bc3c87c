import BuildLog.Decimal.Reading
import BuildLog.Host
import BuildLog.Pattern.Basic
import BuildLog.Pattern.Token

/-! Escapes in patterns and the character sets in square brackets. -/
namespace BuildLog.Pattern

variable [Host]

def isOctal (c : Char) : Bool := '0' ≤ c && c ≤ '7'

def isHex (c : Char) : Bool := c.isDigit || ('a' ≤ c && c ≤ 'f') || ('A' ≤ c && c ≤ 'F')

def hexDigitValue (c : Char) : Nat :=
  if c.isDigit then c.toNat - 48 else c.toLower.toNat - 87

def valueIn (base : Nat) (digits : List Char) : Nat :=
  digits.foldl (fun n c => base * n + hexDigitValue c) 0

/-- Control characters with an escape of one letter. -/
def controlEscape? : Char → Option Nat
  | 'a' => some 7
  | 'b' => some 8
  | 'f' => some 12
  | 'n' => some 10
  | 'r' => some 13
  | 't' => some 9
  | 'v' => some 11
  | '\\' => some 92
  | _ => none

def categoryEscape? : Char → Option Item
  | 'd' => some (.category .digit false)
  | 'D' => some (.category .digit true)
  | 's' => some (.category .blank false)
  | 'S' => some (.category .blank true)
  | 'w' => some (.category .word false)
  | 'W' => some (.category .word true)
  | _ => none

def escapeText (c : Char) (digits : List Char) : String := String.ofList ('\\' :: c :: digits)

def hexEscape (c : Char) (n : Nat) : TokenScan Nat := do
  let digits := charsOf (← Scan.takeUpTo n (Token.isChar isHex))
  if digits.length < n then
    stop (.incompleteEscape (escapeText c digits)) (digits.length + 2)
  else
    let value := valueIn 16 digits
    if value ≤ 0x10FFFF then pure value
    else stop (.badEscape (escapeText c digits)) (digits.length + 2)

/-- A character by its name in braces. -/
def namedEscape : TokenScan Nat := do
  if ← Scan.skip? (.char '\x7b') then
    let name ← textUntil '\x7d' "character name"
    match Host.charNamed? name with
    | some c => pure c.toNat
    | none => stop (.unknownCharacterName name) (name.length + 4)
  else stop (.missing "\x7b")

def octalValue (digits : List Char) : TokenScan Nat :=
  let value := valueIn 8 digits
  if value ≤ 0o377 then pure value
  else
    let text := String.ofList ('\\' :: digits)
    stop (.octalTooGreat text) text.length

/-- Escapes that stand for a code point inside sets and outside. -/
def codeEscape? (c : Char) : Option (TokenScan Nat) :=
  if c == 'x' then some (hexEscape c 2)
  else if c == 'u' then some (hexEscape c 4)
  else if c == 'U' then some (hexEscape c 8)
  else if c == 'N' then some namedEscape
  else none

/-- A character that stands for itself behind a backslash; letters and digits do not. -/
def plainEscape (c : Char) : TokenScan Nat :=
  if c.isAlphanum then stop (.badEscape (escapeText c [])) 2 else pure c.toNat

/-- An escape inside a set. -/
def setEscape (c : Char) : TokenScan Item :=
  match controlEscape? c, categoryEscape? c, codeEscape? c with
  | some n, _, _ => pure (.one n)
  | _, some item, _ => pure item
  | _, _, some scan => return .one (← scan)
  | _, _, _ => do
    if isOctal c then
      let more := charsOf (← Scan.takeUpTo 2 (Token.isChar isOctal))
      return .one (← octalValue (c :: more))
    else return .one (← plainEscape c)

def setItem : Token → TokenScan Item
  | .char c => pure (.one c.toNat)
  | .escape c => setEscape c

/-- The next item or range of a set that begins with `t`. `opening` is the place of its bracket,
`seen` the items so far, last first. -/
def setStep (opening : Nat) (seen : List Item) (t : Token) :
    TokenScan (List Item ⊕ List Item) := do
  if t == .char ']' && !seen.isEmpty then return .inr seen.reverse
  let low ← setItem t
  if ← Scan.skip? (.char '-') then
    match ← Scan.next? with
    | none => stopAt .unterminatedSet opening
    | some (.char ']') => return .inr (.one 45 :: low :: seen).reverse
    | some u =>
      let high ← setItem u
      match low, high with
      | .one a, .one b =>
        if a ≤ b then return .inl (.range a b :: seen)
        else stop (.badRange t.text u.text) (t.width + 1 + u.width)
      | _, _ => stop (.badRange t.text u.text) (t.width + 1 + u.width)
  else return .inl (low :: seen)

/-- A set behind its opening bracket: whether it is negated, and its items. -/
def setBody (opening : Nat) : TokenScan (Bool × List Item) := do
  let negated ← Scan.skip? (.char '^')
  let items ← Scan.loop (setStep opening) (fun _ => stopAt .unterminatedSet opening) []
  return (negated, items)

end BuildLog.Pattern
