import BuildLog.Decimal.Reading
import BuildLog.Host
import BuildLog.Json.Value

/-! Reading JSON texts. The words `NaN`, `Infinity` and `-Infinity` are numbers; an escaped
surrogate without its partner reads as the replacement character; of two members with one
name the later value counts. A complaint names the place by line, column and character. -/
namespace BuildLog.Json

inductive Complaint where
  | byteOrderMark
  | value
  | propertyName
  | colon
  | comma
  | extraData
  | unterminatedString
  | controlCharacter
  | escape
  | unicodeEscape
deriving DecidableEq

def Complaint.message : Complaint → String
  | .byteOrderMark => "Unexpected UTF-8 BOM (decode using utf-8-sig)"
  | .value => "Expecting value"
  | .propertyName => "Expecting property name enclosed in double quotes"
  | .colon => "Expecting ':' delimiter"
  | .comma => "Expecting ',' delimiter"
  | .extraData => "Extra data"
  | .unterminatedString => "Unterminated string starting at"
  | .controlCharacter => "Invalid control character at"
  | .escape => "Invalid \\escape"
  | .unicodeEscape => "Invalid \\uXXXX escape"

structure Malformed where
  complaint : Complaint
  position : Nat
  line : Nat
  column : Nat
deriving DecidableEq

def Malformed.message (m : Malformed) : String :=
  s!"{m.complaint.message}: line {m.line} column {m.column} (char {m.position})"

inductive Error where
  | malformed (m : Malformed)
  | tooManyDigits
  /-- More open brackets than the host bears. -/
  | tooDeep

/-- Why reading stopped; a place is given by the number of characters from it to the end. -/
inductive Stop where
  | complaint (c : Complaint) (remaining : Nat)
  | tooManyDigits
  | tooDeep

/-- What is left of a text after something was read. -/
abbrev Shorter (whole : List Char) := { r : List Char // r.length < whole.length }

/-- What is left of a text after something was read that may have been nothing. -/
abbrev AtMost (whole : List Char) := { r : List Char // r.length ≤ whole.length }

def isSpace (c : Char) : Bool := c == ' ' || c == '\t' || c == '\n' || c == '\r'

def skipSpace (s : List Char) : List Char := s.dropWhile isSpace

theorem skipSpace_length_le (s : List Char) : (skipSpace s).length ≤ s.length :=
  (s.dropWhile_sublist isSpace).length_le

namespace Shorter

variable {s whole : List Char}

theorem length_le (r : Shorter s) (h : s.length ≤ whole.length) : r.1.length ≤ whole.length :=
  Nat.le_trans (Nat.le_of_lt r.2) h

def within (r : Shorter s) (h : s.length ≤ whole.length) : Shorter whole :=
  ⟨r.1, Nat.lt_of_lt_of_le r.2 h⟩

/-- What is left after more was read. -/
def and (r : Shorter s) (t : Shorter r.1) : Shorter s := ⟨t.1, Nat.lt_trans t.2 r.2⟩

/-- What is left after blanks were passed over as well. -/
def spaced (r : Shorter s) : Shorter s :=
  ⟨skipSpace r.1, Nat.lt_of_le_of_lt (skipSpace_length_le r.1) r.2⟩

end Shorter

/-- What is left behind a character, if the text begins with it. -/
def behind? (c : Char) : (s : List Char) → Option (Shorter s)
  | [] => none
  | d :: t => if d == c then some ⟨t, Nat.lt_succ_self _⟩ else none

def hexValue? (c : Char) : Option Nat :=
  let n := c.toNat
  if 48 ≤ n && n ≤ 57 then some (n - 48)
  else if 97 ≤ n && n ≤ 102 then some (n - 87)
  else if 65 ≤ n && n ≤ 70 then some (n - 55)
  else none

def hexValue4? (a b c d : Char) : Option Nat := do
  let a ← hexValue? a
  let b ← hexValue? b
  let c ← hexValue? c
  let d ← hexValue? d
  return ((a * 16 + b) * 16 + c) * 16 + d

def isHighSurrogate (n : Nat) : Bool := 0xD800 ≤ n && n ≤ 0xDBFF

def isLowSurrogate (n : Nat) : Bool := 0xDC00 ≤ n && n ≤ 0xDFFF

/-- The character of a single escape unit. -/
def unitChar (n : Nat) : Char :=
  if isHighSurrogate n || isLowSurrogate n then Char.ofNat 0xFFFD else Char.ofNat n

def pairChar (high low : Nat) : Char :=
  Char.ofNat (0x10000 + (high - 0xD800) * 0x400 + (low - 0xDC00))

def escaped? : Char → Option Char
  | '"' => some '"'
  | '\\' => some '\\'
  | '/' => some '/'
  | 'b' => some (Char.ofNat 8)
  | 'f' => some (Char.ofNat 12)
  | 'n' => some '\n'
  | 'r' => some '\r'
  | 't' => some '\t'
  | _ => none

/-- The number of four hexadecimal digits, behind which the text has to go on. -/
def unit : (s : List Char) → Except Stop (Nat × AtMost s)
  | a :: b :: c :: d :: t =>
    match t, hexValue4? a b c d with
    | next :: t, some n => .ok (n, ⟨next :: t, by simp⟩)
    | t, _ => .error (.complaint .unicodeEscape (t.length + 5))
  | t => .error (.complaint .unicodeEscape (t.length + 1))

/-- The second half of a pair, if an escape unit follows that is one. -/
def lowHalf? : (s : List Char) → Except Stop (Option (Nat × AtMost s))
  | '\\' :: 'u' :: t =>
    if (t.drop 4).isEmpty then .ok none
    else match unit t with
      | .error stop => .error stop
      | .ok (low, r) =>
        .ok (if isLowSurrogate low then some (low, ⟨r.1, Nat.le_succ_of_le (Nat.le_succ_of_le r.2)⟩)
          else none)
  | _ => .ok none

/-- The character of an escape unit, or of two that are a pair. -/
def unicodeChar (s : List Char) : Except Stop (Char × AtMost s) :=
  match unit s with
  | .error stop => .error stop
  | .ok (high, r) =>
    match if isHighSurrogate high then lowHalf? r.1 else .ok none with
    | .error stop => .error stop
    | .ok none => .ok (unitChar high, r)
    | .ok (some (low, r')) => .ok (pairChar high low, ⟨r'.1, Nat.le_trans r'.2 r.2⟩)

/-- The next character of a string, none at its closing quote. `opening` is the text behind the
opening quote. -/
def stringChar (opening : List Char) : (s : List Char) → Except Stop (Option Char × Shorter s)
  | [] => .error (.complaint .unterminatedString (opening.length + 1))
  | ['\\'] => .error (.complaint .unterminatedString (opening.length + 1))
  | '"' :: t => .ok (none, ⟨t, Nat.lt_succ_self _⟩)
  | '\\' :: 'u' :: t =>
    match unicodeChar t with
    | .error stop => .error stop
    | .ok (c, r) => .ok (some c, ⟨r.1, Nat.lt_succ_of_le (Nat.le_succ_of_le r.2)⟩)
  | '\\' :: c :: t =>
    match escaped? c with
    | none => .error (.complaint .escape (t.length + 2))
    | some e => .ok (some e, ⟨t, Nat.lt_succ_of_lt (Nat.lt_succ_self _)⟩)
  | c :: t =>
    if c.toNat < 32 then .error (.complaint .controlCharacter (t.length + 1))
    else .ok (some c, ⟨t, Nat.lt_succ_self _⟩)

/-- The characters of a string up to its closing quote, `seen` being what was read so far, last
first. -/
def stringTail (whole opening seen s : List Char) (h : s.length ≤ whole.length) :
    Except Stop (String × Shorter whole) :=
  match stringChar opening s with
  | .error stop => .error stop
  | .ok (none, r) => .ok (String.ofList seen.reverse, ⟨r.1, Nat.lt_of_lt_of_le r.2 h⟩)
  | .ok (some c, r) => stringTail whole opening (c :: seen) r.1 (Nat.le_trans (Nat.le_of_lt r.2) h)
termination_by s.length
decreasing_by exact r.2

/-- An ASCII digit. -/
def isAsciiDigit (c : Char) : Bool := 48 ≤ c.toNat && c.toNat ≤ 57

/-- The characters of the integer part: a zero, or digits that do not begin with one. -/
def wholeDigits : List Char → List Char
  | '0' :: _ => ['0']
  | cs => cs.takeWhile isAsciiDigit

/-- A point with digits behind it. -/
def fractionPart : List Char → List Char
  | '.' :: rest =>
    let digits := rest.takeWhile isAsciiDigit
    if digits.isEmpty then [] else '.' :: digits
  | _ => []

/-- An `e` with an optional sign and digits behind it. -/
def exponentPart : List Char → List Char
  | e :: rest =>
    if e == 'e' || e == 'E' then
      let sign := match rest with
        | c :: _ => if c == '+' || c == '-' then [c] else []
        | [] => []
      let digits := (rest.drop sign.length).takeWhile isAsciiDigit
      if digits.isEmpty then [] else e :: sign ++ digits
    else []
  | [] => []

/-- The characters of the number at the beginning of a text, and whether it is a float. -/
def numberText (cs : List Char) : List Char × Bool :=
  let sign := match cs with
    | '-' :: _ => ['-']
    | _ => []
  let whole := wholeDigits (cs.drop sign.length)
  if whole.isEmpty then ([], false)
  else
    let rest := cs.drop (sign.length + whole.length)
    let fraction := fractionPart rest
    let exponent := exponentPart (rest.drop fraction.length)
    (sign ++ whole ++ fraction ++ exponent, !(fraction.isEmpty && exponent.isEmpty))

def numberValue (text : List Char) (isFloat : Bool) : Except Stop Value :=
  let (negative, digits) := Decimal.splitSign text
  if isFloat then .ok (.float ((Decimal.digitsPrefix negative digits).getD 0))
  else match Decimal.readDigits digits with
    | .ok n => .ok (.int (Decimal.withSign negative n))
    | .error _ => .error .tooManyDigits

/-- The values that are written as a word. -/
def words : List (List Char × Value) :=
  [("null".toList, .null), ("true".toList, .bool true), ("false".toList, .bool false),
    ("NaN".toList, .float (Decimal.ofSignBits false Decimal.nanBits)),
    ("Infinity".toList, .float (Decimal.ofSignBits false Decimal.infinityBits)),
    ("-Infinity".toList, .float (Decimal.ofSignBits true Decimal.infinityBits))]

theorem length_drop_lt {cs : List Char} {n : Nat} (positive : 0 < n) (filled : 0 < cs.length) :
    (cs.drop n).length < cs.length := by
  simp; omega

/-- A word or a number. -/
def scalar (whole : List Char) :
    (s : List Char) → s.length ≤ whole.length → Except Stop (Value × Shorter whole)
  | [], _ => .error (.complaint .value 0)
  | c :: t, h =>
    let after (n : Nat) (positive : 0 < n) : Shorter whole :=
      ⟨(c :: t).drop n, Nat.lt_of_lt_of_le (length_drop_lt positive (Nat.succ_pos _)) h⟩
    match words.find? fun w => w.1.isPrefixOf (c :: t) with
    | some (word, v) => .ok (v, after (word.length - 1 + 1) (Nat.succ_pos _))
    | none =>
      let (text, isFloat) := numberText (c :: t)
      if positive : 0 < text.length then
        (numberValue text isFloat).map fun v => (v, after text.length positive)
      else .error (.complaint .value (t.length + 1))

/-- What the first character tells of a value, and what is left behind it. -/
inductive Front (s : List Char) where
  | string (rest : Shorter s)
  | array (rest : Shorter s)
  | object (rest : Shorter s)
  | scalar

def front : (s : List Char) → Front s
  | '"' :: t => .string ⟨t, Nat.lt_succ_self _⟩
  | '[' :: t => .array ⟨t, Nat.lt_succ_self _⟩
  | '\x7b' :: t => .object ⟨t, Nat.lt_succ_self _⟩
  | _ => .scalar

/-- The name of a member with its colon, and what is left behind it. -/
def memberName (s : List Char) : Except Stop (String × Shorter s) :=
  match behind? '"' s with
  | none => .error (.complaint .propertyName s.length)
  | some t =>
    match stringTail t.1 t.1 [] t.1 (Nat.le_refl _) with
    | .error stop => .error stop
    | .ok (name, r) =>
      let place := (t.and r).spaced
      match behind? ':' place.1 with
      | some u => .ok (name, (place.and u).spaced)
      | none => .error (.complaint .colon place.1.length)

/-- Behind an item or a member: whether the brackets close here or a comma leads on. -/
def closes (closing : Char) {s : List Char} (r : Shorter s) : Except Stop (Bool × Shorter s) :=
  let place := r.spaced
  match behind? closing place.1, behind? ',' place.1 with
  | some t, _ => .ok (true, place.and t)
  | none, some t => .ok (false, (place.and t).spaced)
  | none, none => .error (.complaint .comma place.1.length)

mutual

/-- The value at the beginning of a text; `nested` counts the brackets that may still be opened. -/
def value (whole : List Char) (nested : Nat) (s : List Char) (h : s.length ≤ whole.length) :
    Except Stop (Value × Shorter whole) :=
  match front s with
  | .string t =>
    (stringTail whole t.1 [] t.1 (t.length_le h)).map fun (text, r) => (.string text, r)
  | .array t =>
    if nested == 0 then .error .tooDeep
    else match behind? ']' t.spaced.1 with
      | some r => .ok (.array [], (t.spaced.and r).within h)
      | none => items whole (nested - 1) [] t.spaced.1 (t.spaced.length_le h)
  | .object t =>
    if nested == 0 then .error .tooDeep
    else match behind? '\x7d' t.spaced.1 with
      | some r => .ok (.object [], (t.spaced.and r).within h)
      | none => members whole (nested - 1) [] t.spaced.1 (t.spaced.length_le h)
  | .scalar => scalar whole s h
termination_by (s.length, 0)
decreasing_by all_goals exact Prod.Lex.left _ _ t.spaced.2

/-- The items of an array from the next item on. -/
def items (whole : List Char) (nested : Nat) (seen : List Value) (s : List Char)
    (h : s.length ≤ whole.length) : Except Stop (Value × Shorter whole) :=
  match value s nested s (Nat.le_refl _) with
  | .error stop => .error stop
  | .ok (v, r) =>
    match closes ']' r with
    | .error stop => .error stop
    | .ok (true, t) => .ok (.array (v :: seen).reverse, t.within h)
    | .ok (false, t) => items whole nested (v :: seen) t.1 (t.length_le h)
termination_by (s.length, 1)
decreasing_by
  · exact Prod.Lex.right _ Nat.zero_lt_one
  · exact Prod.Lex.left _ _ t.2

/-- The members of an object from the next name on. -/
def members (whole : List Char) (nested : Nat) (seen : Members) (s : List Char)
    (h : s.length ≤ whole.length) : Except Stop (Value × Shorter whole) :=
  match memberName s with
  | .error stop => .error stop
  | .ok (name, r) =>
    match value r.1 nested r.1 (Nat.le_refl _) with
    | .error stop => .error stop
    | .ok (v, r') =>
      match closes '\x7d' (r.and r') with
      | .error stop => .error stop
      | .ok (true, t) => .ok (.object (seen.set name v), t.within h)
      | .ok (false, t) => members whole nested (seen.set name v) t.1 (t.length_le h)
termination_by (s.length, 1)
decreasing_by
  · exact Prod.Lex.left _ _ r.2
  · exact Prod.Lex.left _ _ t.2

end

/-- A place counted from the end of a text, by line and column. -/
def Malformed.at (complaint : Complaint) (text : List Char) (remaining : Nat) : Malformed :=
  let position := text.length - remaining
  let before := text.take position
  ⟨complaint, position, before.count '\n' + 1, (before.reverse.takeWhile (· != '\n')).length + 1⟩

def Stop.toError (text : List Char) : Stop → Error
  | .complaint c remaining => .malformed (.at c text remaining)
  | .tooManyDigits => .tooManyDigits
  | .tooDeep => .tooDeep

def readChars [Host] (text : List Char) : Except Stop Value := do
  if text.head? == some (Char.ofNat 0xFEFF) then throw (.complaint .byteOrderMark text.length)
  let s := skipSpace text
  let (v, r) ← value s Host.jsonDepth s (Nat.le_refl _)
  let rest := skipSpace r.1
  if rest.isEmpty then return v else throw (.complaint .extraData rest.length)

/-- The value of a JSON text. -/
def read [Host] (s : String) : Except Error Value :=
  (readChars s.toList).mapError (Stop.toError s.toList)

/-- A text that is JSON at all; too many digits count as malformed, too many brackets do not. -/
def read? [Host] (s : String) : Except Error (Option Value) :=
  match read s with
  | .ok v => .ok (some v)
  | .error .tooDeep => .error .tooDeep
  | .error _ => .ok none

end BuildLog.Json
