import BuildLog.Text.Blank
import BuildLog.Text.Casing
import BuildLog.Text.Digits
import BuildLog.Decimal.Rounding

/-! Numbers at the beginning of a text. Leading blanks are passed over, a sign is optional,
the digits may be of any decimal alphabet, and what follows the number is not looked at. -/
namespace BuildLog.Decimal

open BuildLog.Text

inductive Error where
  /-- An integer is read from at most `digitLimit` digits. -/
  | tooManyDigits
  /-- An integer too great for any finite float. -/
  | beyondFloat
deriving DecidableEq

def digitLimit : Nat := 4300

/-- The value of a run of decimal digits. -/
def natOf (digits : List Char) : Nat :=
  digits.foldl (fun n c => 10 * n + (decimal? c).getD 0) 0

def readDigits (digits : List Char) : Except Error Nat :=
  if digitLimit < digits.length then .error .tooManyDigits else .ok (natOf digits)

/-- Whether a minus sign stands in front, and the text after the sign. -/
def splitSign : List Char → Bool × List Char
  | '-' :: rest => (true, rest)
  | '+' :: rest => (false, rest)
  | cs => (false, cs)

def withSign (negative : Bool) (n : Nat) : Int := if negative then -n else n

/-- The integer at the beginning of a text. -/
def intPrefix (cs : List Char) : Except Error (Option Int) :=
  let (negative, rest) := splitSign (trimStart cs)
  let digits := rest.takeWhile isDecimal
  if digits.isEmpty then .ok none
  else (readDigits digits).map fun n => some (withSign negative n)

/-- Digits between which single underscores may stand. -/
def ungrouped? : List Char → Option (List Char)
  | [] => none
  | [c] => if isDecimal c then some [c] else none
  | c :: '_' :: rest => if isDecimal c then (ungrouped? rest).map (c :: ·) else none
  | c :: rest => if isDecimal c then (ungrouped? rest).map (c :: ·) else none

/-- A text that is an integer as a whole, blanks at its ends apart. -/
def wholeInt? (cs : List Char) : Option Int := do
  let (negative, rest) := splitSign (trim cs)
  let digits ← ungrouped? rest
  let n ← (readDigits digits).toOption
  return withSign negative n

/-- Signed integers of so many bits. -/
def fits (bits : Nat) (n : Int) : Bool :=
  let beyond : Nat := Nat.pow 2 (bits - 1)
  n < (beyond : Int) && -(beyond : Int) ≤ n

/-- The integer at the beginning of a text, if it fits into so many bits. -/
def boundedPrefix (bits : Nat) (cs : List Char) : Except Error (Option Int) :=
  (intPrefix cs).map fun n => n.filter (fits bits)

/-- The exponent part of a number, zero if there is none. -/
def exponentOf : List Char → Int
  | [] => 0
  | e :: rest =>
    if e == 'e' || e == 'E' then
      let (negative, rest) := splitSign rest
      withSign negative (natOf (rest.takeWhile isDecimal))
    else 0

/-- Digits, a point among them or in front, and an exponent. -/
def digitsPrefix (negative : Bool) (cs : List Char) : Option Float :=
  let whole := cs.takeWhile isDecimal
  let rest := cs.dropWhile isDecimal
  let (fraction, rest) :=
    match rest with
    | '.' :: more => (more.takeWhile isDecimal, more.dropWhile isDecimal)
    | _ => ([], rest)
  if whole.isEmpty && fraction.isEmpty then none
  else
    some (toFloat negative (natOf (whole ++ fraction)) (exponentOf rest - fraction.length))

/-- Letters of the words for infinity and for no number. A dotless or dotted capital i counts
as an i when the word is recognised, but makes the word unreadable. -/
def wordLetter (c : Char) : Char := if c.toNat == 0x131 then 'i' else lowerChar c

def startsWord (word : String) (cs : List Char) : Bool :=
  word.toList.isPrefixOf (cs.map wordLetter)

/-- The float at the beginning of a text, the words `inf`, `infinity` and `nan` included. -/
def floatPrefix (cs : List Char) : Option Float :=
  let (negative, rest) := splitSign (trimStart cs)
  let word (length : Nat) (bits : Nat) : Option Float :=
    if (rest.take length).all (·.toNat < 128) then some (ofSignBits negative bits) else none
  if startsWord "infinity" (rest.take 8) then word 8 infinityBits
  else if startsWord "inf" (rest.take 3) then word 3 infinityBits
  else if startsWord "nan" (rest.take 3) then word 3 nanBits
  else digitsPrefix negative rest

/-- Without the underscores that stand between two digits; another underscore is a fault. -/
def withoutGrouping? (before : Option Char) : List Char → Option (List Char)
  | [] => some []
  | '_' :: rest =>
    if before.any isDecimal && (rest.head?.map isDecimal).getD false then
      withoutGrouping? (some '_') rest
    else none
  | c :: rest => (withoutGrouping? (some c) rest).map (c :: ·)

/-- An exponent part that is well formed, or nothing. -/
def isExponent : List Char → Bool
  | [] => true
  | e :: rest =>
    let digits := (splitSign rest).2
    (e == 'e' || e == 'E') && !digits.isEmpty && digits.all isDecimal

/-- Whether digits, perhaps with a point, and perhaps an exponent make up the whole text. -/
def isFloatText (cs : List Char) : Bool :=
  let whole := cs.takeWhile isDecimal
  match cs.dropWhile isDecimal with
  | '.' :: more =>
    (!whole.isEmpty || (more.head?.map isDecimal).getD false) &&
      isExponent (more.dropWhile isDecimal)
  | rest => !whole.isEmpty && isExponent rest

/-- A text that is a float as a whole, blanks at its ends apart. -/
def wholeFloat? (cs : List Char) : Option Float := do
  let cs ← withoutGrouping? none (trim cs)
  let body := (splitSign cs).2
  let isWord := ["inf".toList, "infinity".toList, "nan".toList].contains (body.map Char.toLower)
  if isWord || isFloatText body then floatPrefix cs else none

end BuildLog.Decimal
