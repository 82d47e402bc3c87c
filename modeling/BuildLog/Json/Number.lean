import BuildLog.Decimal.Reading
import BuildLog.Event
import BuildLog.Json.Display

/-! Numbers taken from JSON values of any type: a number is itself, and of every other value
the number at the beginning of its text counts. -/
namespace BuildLog.Json

/-- An integer of at most so many bits. A truth value stands for itself. -/
def Value.bounded? (bits : Nat) : Value → Except Decimal.Error (Option Ordinal)
  | .null => .ok none
  | .bool b => .ok (some (.flag b))
  | .int n => .ok (if Decimal.fits bits n then some (.int n) else none)
  | v => (Decimal.boundedPrefix bits v.text.toList).map (·.map .int)

def Value.int32? (v : Value) : Except Decimal.Error (Option Ordinal) := v.bounded? 32

def Value.int64? (v : Value) : Except Decimal.Error (Option Ordinal) := v.bounded? 64

def Value.float? : Value → Except Decimal.Error (Option Float)
  | .null => .ok none
  | .bool b => .ok (some (if b then 1 else 0))
  | .int n =>
    match Decimal.ofInt? n with
    | some x => .ok (some x)
    | none => .error .beyondFloat
  | .float x => .ok (some x)
  | v => .ok (Decimal.floatPrefix v.text.toList)

/-- A number, with another one to fall back on where there is none. -/
def numberOr (default : α) (number? : Except Decimal.Error (Option α)) : Except Decimal.Error α :=
  number?.map (·.getD default)

def Value.int32Or (default : Ordinal) (v : Value) : Except Decimal.Error Ordinal :=
  numberOr default v.int32?

def Value.int64Or (default : Ordinal) (v : Value) : Except Decimal.Error Ordinal :=
  numberOr default v.int64?

def Value.floatOr (default : Float) (v : Value) : Except Decimal.Error Float :=
  numberOr default v.float?

end BuildLog.Json
