import BuildLog.Pattern.Error
import BuildLog.Scan

/-! Symbols of a pattern text: a character, or a backslash with the character behind it. -/
namespace BuildLog.Pattern

inductive Token where
  | char (c : Char)
  | escape (c : Char)
deriving DecidableEq

def Token.chars : Token → List Char
  | .char c => [c]
  | .escape c => ['\\', c]

def Token.text (t : Token) : String := String.ofList t.chars

def Token.width (t : Token) : Nat := t.chars.length

/-- The symbols of a text, and whether a single backslash is left over at its end. -/
def tokens : List Char → List Token × Bool
  | [] => ([], false)
  | ['\\'] => ([], true)
  | '\\' :: c :: rest => let (ts, dangling) := tokens rest; (.escape c :: ts, dangling)
  | c :: rest => let (ts, dangling) := tokens rest; (.char c :: ts, dangling)

def width (ts : List Token) : Nat := (ts.flatMap Token.chars).length

def textOf (ts : List Token) : String := String.ofList (ts.flatMap Token.chars)

/-- Why reading stopped. `remaining` counts the characters from the place of a fault to the end
of the symbols; `atEnd` tells that all symbols had been taken. -/
inductive Stop where
  | fault (reason : Reason) (remaining : Option Nat) (atEnd : Bool)
  | other (e : Error) (atEnd : Bool)

def Stop.atEnd : Stop → Bool
  | .fault _ _ atEnd => atEnd
  | .other _ atEnd => atEnd

abbrev TokenScan := Scan Token Stop

/-- Stop at a place `back` characters before the next symbol. -/
def stop (reason : Reason) (back : Nat := 0) : TokenScan α := fun s =>
  .error (.fault reason (some (width s + back)) s.isEmpty)

/-- Stop at a place counted from the end. -/
def stopAt (reason : Reason) (remaining : Nat) : TokenScan α := fun s =>
  .error (.fault reason (some remaining) s.isEmpty)

/-- Stop at a symbol that was looked at and not taken. -/
def stopBefore (reason : Reason) (t : Token) : TokenScan α := fun s =>
  .error (.fault reason (some (width s + t.width)) false)

def stopWith (e : Error) : TokenScan α := fun s => .error (.other e s.isEmpty)

def Token.isChar (p : Char → Bool) : Token → Bool
  | .char c => p c
  | .escape _ => false

def charsOf (ts : List Token) : List Char := ts.flatMap Token.chars

/-- The text up to a terminator, which is taken too. -/
def textUntil (terminator : Char) (what : String) : TokenScan String := do
  let name := textOf (← Scan.takeWhile fun t => t != .char terminator)
  match ← Scan.next? with
  | none =>
    if name.isEmpty then stop (.missing what) else stop (.unterminatedName terminator) name.length
  | some _ => if name.isEmpty then stop (.missing what) 1 else pure name

end BuildLog.Pattern
