import BuildLog.Decimal.Reading
import BuildLog.Timestamp.Calendar

/-! The numbers of a date in the order in which they stand, and which of them is the year, the
month and the day. A number may be labelled as a year or a month when it is read; the others
are told apart by their size and place. -/
namespace BuildLog.Timestamp

open Text

/-- A decimal number without sign, cut at its point. -/
structure Numeral where
  whole : List Char
  fraction : List Char

namespace Numeral

def hasFraction (n : Numeral) : Bool := Decimal.natOf n.fraction != 0

def toNat (n : Numeral) : Nat := Decimal.natOf n.whole

/-- The sixtieths of the fraction. -/
def sixtieths (n : Numeral) : Nat :=
  60 * Decimal.natOf n.fraction / Nat.pow 10 n.fraction.length

def atMost (n : Numeral) (limit : Nat) : Bool :=
  n.toNat < limit || (n.toNat == limit && !n.hasFraction)

/-- A run of digits with at most one point inside. -/
def read? (cs : List Char) : Option Numeral :=
  let whole := cs.takeWhile isDecimal
  match cs.dropWhile isDecimal with
  | [] => if whole.isEmpty then none else some ⟨whole, []⟩
  | '.' :: rest =>
    if (whole.isEmpty && rest.isEmpty) || !rest.all isDecimal then none else some ⟨whole, rest⟩
  | _ => none

end Numeral

/-- The value of a text of decimal digits. -/
def digits? (cs : List Char) : Option Nat :=
  if cs.isEmpty || !cs.all isDecimal then none else (Decimal.readDigits cs).toOption

inductive Label where
  | year
  | month
deriving DecidableEq

structure DateParts where
  values : List Nat := []
  yearAt : Option Nat := none
  monthAt : Option Nat := none
  /-- The year is written with its century. -/
  hasCentury : Bool := false

structure Date where
  year : Option Nat := none
  month : Option Nat := none
  day : Option Nat := none

namespace DateParts

def count (p : DateParts) : Nat := p.values.length

/-- Add a number. A year and a month can be labelled once only. -/
def put (p : DateParts) (label : Option Label) (n : Nat) : Option DateParts :=
  let at_ := p.count
  let p := { p with values := p.values ++ [n] }
  match label with
  | none => some p
  | some .year => if p.yearAt.isSome then none else some { p with yearAt := some at_ }
  | some .month => if p.monthAt.isSome then none else some { p with monthAt := some at_ }

/-- Add a year that is written in full. -/
def putYear (p : DateParts) (n : Nat) : Option DateParts :=
  { p with hasCentury := true }.put (some .year) n

/-- Add digits as they are written; more than two of them are a year. -/
def putDigits (p : DateParts) (cs : List Char) : Option DateParts := do
  let n ← digits? cs
  if 2 < cs.length then p.putYear n else p.put none n

/-- Add a number by its value; above one hundred it is a year. -/
def putNumeral (p : DateParts) (n : Numeral) : Option DateParts :=
  if n.atMost 100 then p.put none n.toNat else p.putYear n.toNat

def putMonth (p : DateParts) (month : Nat) : Option DateParts := p.put (some .month) month

/-- Whether a number may be the day that is still missing. -/
def couldBeDay (p : DateParts) (n : Numeral) : Bool :=
  let limit :=
    match p.monthAt.bind (p.values[·]?) with
    | none => 31
    | some month => daysInMonth ((p.yearAt.bind (p.values[·]?)).getD 2000) month
  1 ≤ n.toNat && n.atMost limit

/-- No day has a greater number, so what is greater is a year. -/
def longestMonth : Nat := 31

/-- A single number, or one besides a month. -/
def lone (month : Option Nat) (n : Nat) : Date :=
  if longestMonth < n then { year := some n, month } else { month, day := some n }

def three (year month day : Nat) : Date := ⟨some year, some month, some day⟩

/-- The date, none if there are too many numbers. A year and a month that are both labelled
leave the day; else the place of the month, great numbers and the month's limit decide. -/
def resolve (p : DateParts) : Option Date :=
  match p.values, p.yearAt, p.monthAt with
  | [], _, _ => some {}
  | [a], some _, _ => some { year := some a }
  | [a], none, some _ => some { month := some a }
  | [a], none, none => some (lone none a)
  | [a, b], some 0, some _ => some { year := some a, month := some b }
  | [a, b], some _, some _ => some { year := some b, month := some a }
  | [a, b], none, some 0 => some (lone (some a) b)
  | [a, b], none, some _ => some (lone (some b) a)
  | [a, b], _, none =>
    some (if longestMonth < a then { year := some a, month := some b }
      else if longestMonth < b then { month := some a, year := some b }
      else { month := some a, day := some b })
  | [a, b, c], some 0, some 1 => some (three a b c)
  | [a, b, c], some 0, some _ => some (three a c b)
  | [a, b, c], some 1, some 0 => some (three b a c)
  | [a, b, c], some 1, some _ => some (three b c a)
  | [a, b, c], some _, some 0 => some (three c a b)
  | [a, b, c], some _, some _ => some (three c b a)
  | [a, b, c], none, some 0 => some (if longestMonth < b then three b a c else three c a b)
  | [a, b, c], none, some 1 => some (if longestMonth < a then three a b c else three c b a)
  | [a, b, c], none, some _ => some (if longestMonth < b then three b c a else three a c b)
  | [a, b, c], yearAt, none =>
    some (if longestMonth < a || yearAt == some 0 then three a b c
      else if 12 < a then three c b a
      else three c a b)
  | _, _, _ => none

end DateParts

/-- The century of a year of two digits: within fifty years of the present one. -/
def fullYear (present : Nat) (hasCentury : Bool) (year : Nat) : Nat :=
  if year < 100 && !hasCentury then
    let near := present / 100 * 100 + year
    if present + 50 ≤ near then near - 100
    else if near < present - 50 then near + 100
    else near
  else year

end BuildLog.Timestamp
