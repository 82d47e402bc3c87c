/-! The Gregorian calendar, carried back to year one, and points of time in it. -/
namespace BuildLog.Timestamp

def isLeap (year : Nat) : Bool := year % 4 == 0 && (year % 100 != 0 || year % 400 == 0)

def daysInMonth (year month : Nat) : Nat :=
  match month with
  | 2 => if isLeap year then 29 else 28
  | 4 | 6 | 9 | 11 => 30
  | _ => 31

structure Day where
  year : Nat
  month : Nat
  day : Nat
deriving DecidableEq, Repr

namespace Day

def lastYear : Nat := 9999

def isValid (d : Day) : Bool :=
  1 ≤ d.year && d.year ≤ lastYear && 1 ≤ d.month && d.month ≤ 12 && 1 ≤ d.day &&
    d.day ≤ daysInMonth d.year d.month

/-- Days of the year before a month. -/
def daysBefore (year : Nat) (month : Nat) : Nat :=
  ((List.range month).drop 1).foldl (fun n m => n + daysInMonth year m) 0

/-- Days from the first day of year one, which counts as one. -/
def number (d : Day) : Nat :=
  let before := d.year - 1
  365 * before + before / 4 - before / 100 + before / 400 + daysBefore d.year d.month + d.day

/-- Day of the week, Monday being zero. -/
def weekday (d : Day) : Nat := (d.number + 6) % 7

def next (d : Day) : Day :=
  if d.day < daysInMonth d.year d.month then { d with day := d.day + 1 }
  else if d.month < 12 then ⟨d.year, d.month + 1, 1⟩
  else ⟨d.year + 1, 1, 1⟩

def forward : (n : Nat) → Day → Day
  | 0, d => d
  | n + 1, d => forward n d.next

/-- The given day of the week, on the day itself or within the six days after it. -/
def toWeekday (weekday : Nat) (d : Day) : Day := forward ((weekday + 7 - d.weekday) % 7) d

end Day

/-- A time of day on a day. The offset from universal time is in minutes, if there is one. -/
structure Moment where
  day : Day
  hour : Nat
  minute : Nat
  second : Nat
  microsecond : Nat
  offset : Option Int
deriving DecidableEq, Repr

namespace Moment

def isValid (m : Moment) : Bool :=
  m.day.isValid && m.hour < 24 && m.minute < 60 && m.second < 60 && m.microsecond < 1000000 &&
    m.offset.all fun minutes => minutes.natAbs < 24 * 60

/-- A number with leading zeros up to the given width. -/
def padded (width n : Nat) : String :=
  let digits := toString n
  "".pushn '0' (width - digits.length) ++ digits

def offsetText (minutes : Int) : String :=
  let n := minutes.natAbs
  (if minutes < 0 then "-" else "+") ++ padded 2 (n / 60) ++ ":" ++ padded 2 (n % 60)

/-- The ISO 8601 form; a fraction of a second is left out if it is zero. -/
def text (m : Moment) : String :=
  s!"{padded 4 m.day.year}-{padded 2 m.day.month}-{padded 2 m.day.day}T" ++
    s!"{padded 2 m.hour}:{padded 2 m.minute}:{padded 2 m.second}" ++
    (if m.microsecond == 0 then "" else "." ++ padded 6 m.microsecond) ++
    (m.offset.map offsetText).getD ""

end BuildLog.Timestamp.Moment
