import BuildLog.Text.Blank
import BuildLog.Text.Casing
import BuildLog.Text.Digits

/-! Classes of characters in patterns. Characters are given by code points, some of which are
no characters and so match nothing. -/
namespace BuildLog.Pattern

open Text

inductive Category where
  | digit
  | blank
  | word
deriving DecidableEq, Repr

/-- In ASCII mode only ASCII characters belong to a category. -/
def Category.has (ascii : Bool) (c : Char) : Category → Bool
  | .digit => if ascii then c.isDigit else isDecimal c
  | .blank =>
    if ascii then c.toNat < 128 && (c == ' ' || (9 ≤ c.toNat && c.toNat ≤ 13)) else isBlank c
  | .word => if ascii then c.isAlphanum || c == '_' else isWord c

/-- How letters of different case are told apart. -/
inductive Fold where
  | exact
  | ascii
  | unicode
deriving DecidableEq, Repr

/-- Lower case letters that share an upper case form. -/
def caseSiblings : List (List Nat) :=
  [[0x69, 0x131], [0x73, 0x17F], [0xB5, 0x3BC], [0x345, 0x3B9, 0x1FBE], [0x390, 0x1FD3],
    [0x3B0, 0x1FE3], [0x3B2, 0x3D0], [0x3B5, 0x3F5], [0x3B8, 0x3D1], [0x3BA, 0x3F0],
    [0x3C0, 0x3D6], [0x3C1, 0x3F1], [0x3C2, 0x3C3], [0x3C6, 0x3D5], [0x432, 0x1C80],
    [0x434, 0x1C81], [0x43E, 0x1C82], [0x441, 0x1C83], [0x442, 0x1C84, 0x1C85],
    [0x44A, 0x1C86], [0x463, 0x1C87], [0x1C88, 0xA64B], [0x1E61, 0x1E9B], [0xFB05, 0xFB06]]

/-- The lower case letters that count as the same letter as this one. -/
def siblings (n : Nat) : List Nat := (caseSiblings.find? (·.contains n)).getD [n]

def lowerPoint (n : Nat) : Nat := if n.isValidChar then (lowerChar (Char.ofNat n)).toNat else n

/-- The code points whose lower case is this one. -/
def lowerSources (n : Nat) : List Nat :=
  (if lowerPoint n == n then [n] else []) ++ (if n == 0x69 then [0x130] else []) ++
    lowerRuns.toList.filterMap fun run =>
      let source := ((n : Int) - run.offset).toNat
      if run.covers source then some source else none

/-- The code points that match a character. -/
def Fold.matching (c : Char) : Fold → List Nat
  | .exact => [c.toNat]
  | .ascii => if c.isAlpha then [c.toLower.toNat, c.toUpper.toNat] else [c.toNat]
  | .unicode => (siblings (lowerChar c).toNat).flatMap lowerSources

inductive Item where
  | one (n : Nat)
  | range (low high : Nat)
  | category (c : Category) (negated : Bool)
deriving DecidableEq, Repr

/-- `same` holds the code points that match the character. -/
def Item.has (ascii : Bool) (same : List Nat) (c : Char) : Item → Bool
  | .one n => same.contains n
  | .range low high => same.any fun n => low ≤ n && n ≤ high
  | .category k negated => k.has ascii c != negated

structure CharClass where
  items : List Item
  negated : Bool := false
  fold : Fold := .exact
  ascii : Bool := false
deriving DecidableEq, Repr

def CharClass.has (k : CharClass) (c : Char) : Bool :=
  k.items.any (·.has k.ascii (k.fold.matching c) c) != k.negated

def CharClass.any : CharClass := { items := [], negated := true }

def CharClass.anyButLineFeed : CharClass := { items := [.one 10], negated := true }

def CharClass.char (c : Char) : CharClass := { items := [.one c.toNat] }

def CharClass.digits : CharClass := { items := [.category .digit false] }

def CharClass.blanks : CharClass := { items := [.category .blank false] }

def CharClass.nonBlanks : CharClass := { items := [.category .blank true] }

def CharClass.words : CharClass := { items := [.category .word false] }

def CharClass.oneOf (s : String) : CharClass := { items := s.toList.map fun c => .one c.toNat }

def CharClass.noneOf (s : String) : CharClass := { CharClass.oneOf s with negated := true }

/-- Word characters and some more. -/
def CharClass.wordOr (s : String) : CharClass :=
  { items := .category .word false :: s.toList.map fun c => .one c.toNat }

def CharClass.ranges (rs : List (Char × Char)) : CharClass :=
  { items := rs.map fun (low, high) => .range low.toNat high.toNat }

end BuildLog.Pattern
