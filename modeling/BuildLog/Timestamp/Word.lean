import BuildLog.Text.Casing
import BuildLog.Timestamp.Token

/-! The words of timestamps, in any case. -/
namespace BuildLog.Timestamp

open Text

def lowered (t : Token) : String := lower (String.ofList t)

/-- Words and signs that mean nothing by themselves. -/
def fillers : List String :=
  [" ", ".", ",", ";", "-", "/", "'", "at", "on", "and", "ad", "m", "t", "of", "st", "nd", "rd",
    "th"]

def isFiller (t : Token) : Bool := fillers.contains (lowered t)

def monthNames : List (List String) :=
  [["jan", "january"], ["feb", "february"], ["mar", "march"], ["apr", "april"], ["may"],
    ["jun", "june"], ["jul", "july"], ["aug", "august"], ["sep", "sept", "september"],
    ["oct", "october"], ["nov", "november"], ["dec", "december"]]

/-- Months count from one. -/
def month? (t : Token) : Option Nat :=
  (monthNames.findIdx? (·.contains (lowered t))).map (· + 1)

def weekdayNames : List (List String) :=
  [["mon", "monday"], ["tue", "tuesday"], ["wed", "wednesday"], ["thu", "thursday"],
    ["fri", "friday"], ["sat", "saturday"], ["sun", "sunday"]]

/-- Days of the week count from zero. -/
def weekday? (t : Token) : Option Nat := weekdayNames.findIdx? (·.contains (lowered t))

inductive HalfDay where
  | am
  | pm
deriving DecidableEq

def halfDay? (t : Token) : Option HalfDay :=
  let word := lowered t
  if word == "am" || word == "a" then some .am
  else if word == "pm" || word == "p" then some .pm
  else none

/-- The hour of a day of twenty-four hours. -/
def HalfDay.hour (half : HalfDay) (hour : Nat) : Nat :=
  match half with
  | .pm => if hour < 12 then hour + 12 else hour
  | .am => if hour == 12 then 0 else hour

inductive TimeUnit where
  | hour
  | minute
  | second
deriving DecidableEq

def timeUnit? (t : Token) : Option TimeUnit :=
  let word := lowered t
  if ["h", "hour", "hours"].contains word then some .hour
  else if ["m", "minute", "minutes"].contains word then some .minute
  else if ["s", "second", "seconds"].contains word then some .second
  else none

/-- The unit of a number behind a number of this unit. -/
def TimeUnit.next? : TimeUnit → Option TimeUnit
  | .hour => some .minute
  | .minute => some .second
  | .second => none

/-- Words that stand where a number is due and are none. -/
def isNoNumber (t : Token) : Bool := ["nan", "inf", "infinity"].contains (lowered t)

/-- Names of universal time. -/
def isUniversal (t : Token) : Bool := ["utc", "gmt", "z"].contains (lowered t)

/-- A token that may name a time zone. -/
def isZoneName (t : Token) : Bool :=
  t.length ≤ 5 && (t.all (fun c => 'A' ≤ c && c ≤ 'Z') || t == ['z'])

end BuildLog.Timestamp
