import BuildLog.Host
import BuildLog.Timestamp.DateParts
import BuildLog.Timestamp.Word

/-! Reading timestamps of the many forms in which logs write them. Tokens are taken from left to
right; a number is told by its length, by its neighbours and by what has been read before it. -/
namespace BuildLog.Timestamp

open Text

variable [Host]

/-- What has been read so far. -/
structure Reading where
  parts : DateParts := {}
  weekday : Option Nat := none
  hour : Option Nat := none
  minute : Option Nat := none
  second : Option Nat := none
  microsecond : Option Nat := none
  zone : Option Token := none
  /-- Minutes from universal time. -/
  offset : Option Int := none
  /-- The sign that follows tells how universal time differs from the zone just named. -/
  isReversed : Bool := false

namespace Reading

/-- A step answers how many further tokens it took. -/
abbrev Step := Option (Reading × Nat)

/-- Seconds with a fraction, of which six digits count. -/
def seconds? (t : Token) : Option (Nat × Nat) :=
  let whole := t.takeWhile (· != '.')
  match t.dropWhile (· != '.') with
  | [] => (digits? whole).map (·, 0)
  | _ :: fraction => do
    let micro ← digits? ((fraction ++ List.replicate 6 '0').take 6)
    guard (!fraction.contains '.')
    return (← digits? whole, micro)

def setSeconds (r : Reading) (t : Token) : Option Reading :=
  (seconds? t).map fun (s, micro) => { r with second := some s, microsecond := some micro }

/-- Minutes; a fraction of a minute is seconds. -/
def setMinutes (r : Reading) (n : Numeral) : Reading :=
  { r with
    minute := some n.toNat
    second := if n.hasFraction then some n.sixtieths else none }

/-- A number with a unit of time; a fraction of an hour is minutes. -/
def setTime (r : Reading) (t : Token) (n : Numeral) : TimeUnit → Option Reading
  | .hour =>
    let r := { r with hour := some n.toNat }
    some (if n.hasFraction then { r with minute := some n.sixtieths } else r)
  | .minute => some (r.setMinutes n)
  | .second => r.setSeconds t

/-- The unit of a number, and how many tokens behind the number name it: it follows, perhaps
after a space, or the number follows a number that has one. -/
def unitAround (before after : List Token) : Option (Option TimeUnit × Nat) :=
  match after.head?.bind timeUnit? with
  | some u => some (some u, 1)
  | none =>
    match after with
    | [' '] :: t :: _ =>
      match timeUnit? t with
      | some u => some (some u, 2)
      | none => earlier
    | _ => earlier
where
  earlier : Option (Option TimeUnit × Nat) :=
    match before.head?.bind timeUnit? with
    | some u => some (u.next?, 0)
    | none =>
      match before, after with
      | [' '] :: t :: _, [] => (timeUnit? t).map fun u => (u.next?, 0)
      | _, _ => none

/-- A date of parts between equal signs, of which the first has been read. -/
def putDate (r : Reading) (t sign : Token) (rest : List Token) : Step := do
  let parts ← r.parts.putDigits t
  match rest with
  | [] => return ({ r with parts }, 1)
  | second :: more =>
    if isFiller second then return ({ r with parts }, 1)
    else
      let parts ←
        if second.all isDigit then parts.putDigits second
        else (month? second).bind parts.putMonth
      match more with
      | next :: third =>
        if next == sign then
          let t ← third.head?
          let parts ←
            match month? t with
            | some month => parts.putMonth month
            | none => parts.putDigits t
          return ({ r with parts }, 4)
        else return ({ r with parts }, 2)
      | [] => return ({ r with parts }, 2)

/-- A clock time of which the hour and the colon have been read. -/
def putClock (r : Reading) (n : Numeral) (minute : Token) (rest : List Token) : Step := do
  let r := { r with hour := some n.toNat }.setMinutes (← Numeral.read? minute)
  match rest with
  | [':'] :: t :: _ => return (← r.setSeconds t, 4)
  | _ => return (r, 2)

/-- Digits without signs: a time if a part of the date has been read, else a date. -/
def putSix (r : Reading) (t : Token) : Option Reading :=
  if r.parts.count == 0 && !t.contains '.' then do
    let parts ← r.parts.putDigits (t.take 2)
    let parts ← parts.putDigits ((t.drop 2).take 2)
    return { r with parts := ← parts.putDigits (t.drop 4) }
  else do
    let hour ← digits? (t.take 2)
    let minute ← digits? ((t.drop 2).take 2)
    { r with hour, minute }.setSeconds (t.drop 4)

/-- A date of eight digits, behind which the time may follow. -/
def putLong (r : Reading) (t : Token) : Option Reading := do
  let parts ← r.parts.putDigits (t.take 4)
  let parts ← parts.putDigits ((t.drop 4).take 2)
  let parts ← parts.putDigits ((t.drop 6).take 2)
  let r := { r with parts }
  if t.length == 8 then return r
  let hour ← digits? ((t.drop 8).take 2)
  let minute ← digits? ((t.drop 10).take 2)
  let r := { r with hour, minute }
  if t.length == 12 then return r
  let second ← digits? (t.drop 12)
  return { r with second }

/-- Whether the time may follow the date without a colon. -/
def endsTime (after : List Token) : Bool :=
  match after with
  | [] => true
  | t :: _ => t == [' '] || (timeUnit? t).isSome

def isDateSign (t : Token) : Bool := t == ['-'] || t == ['/'] || t == ['.']

/-- A number that may still be the day. -/
def putDay (r : Reading) (n : Numeral) : Step :=
  if r.parts.couldBeDay n then (r.parts.putNumeral n).map fun parts => ({ r with parts }, 0)
  else none

/-- A number that is known by the tokens behind it or by its value alone. -/
def putNumber (r : Reading) (t : Token) (n : Numeral) (after : List Token) : Step :=
  match after with
  | [':'] :: minute :: rest => r.putClock n minute rest
  | [] => (r.parts.putNumeral n).map fun parts => ({ r with parts }, 1)
  | next :: rest =>
    if isDateSign next then r.putDate t next rest
    else if isFiller next then
      match rest.head?.bind halfDay? with
      | some half => some ({ r with hour := some (half.hour n.toNat) }, 2)
      | none => (r.parts.putNumeral n).map fun parts => ({ r with parts }, 1)
    else
      match halfDay? next with
      | some half =>
        if n.toNat < 24 then some ({ r with hour := some (half.hour n.toNat) }, 1)
        else r.putDay n
      | none => r.putDay n

/-- A number in its surroundings. -/
def number (r : Reading) (before : List Token) (t : Token) (n : Numeral) (after : List Token) :
    Step :=
  let length := t.length
  if r.parts.count == 3 && (length == 2 || length == 4) && r.hour.isNone && endsTime after then do
    let hour ← digits? (t.take 2)
    let minute ← if length == 4 then (digits? (t.drop 2)).map some else some r.minute
    return ({ r with hour, minute }, 0)
  else if length == 6 || (6 < length && t.idxOf '.' == 6) then (r.putSix t).map (·, 0)
  else if length == 8 || length == 12 || length == 14 then (r.putLong t).map (·, 0)
  else
    match unitAround before after with
    | some (some unit, taken) => (r.setTime t n unit).map (·, taken)
    | some (none, taken) => some (r, taken)
    | none => r.putNumber t n after

/-- A month by its name, and the parts of the date behind it. -/
def month (r : Reading) (m : Nat) (after : List Token) : Step := do
  let parts ← r.parts.putMonth m
  match after with
  | [] => return ({ r with parts }, 0)
  | sign :: rest =>
    if sign == ['-'] || sign == ['/'] then
      let parts ← parts.putDigits (← rest.head?)
      match rest.drop 1 with
      | next :: third =>
        if next == sign then return ({ r with parts := ← parts.putDigits (← third.head?) }, 4)
        else return ({ r with parts }, 2)
      | [] => return ({ r with parts }, 2)
    else
      match after with
      | [' '] :: word :: [' '] :: year :: _ =>
        if lowered word != "of" then return ({ r with parts }, 0)
        else if year.all isDigit then
          return ({ r with parts := ← parts.put (some .year) (← digits? year) }, 4)
        else return ({ r with parts }, 4)
      | _ => return ({ r with parts }, 0)

/-- A name of a time zone. An offset behind it tells the offset of universal time. -/
def zoneName (r : Reading) (t : Token) (after : List Token) : Reading :=
  match after with
  | ['+'] :: _ | ['-'] :: _ =>
    { r with zone := if isUniversal t then none else some t, offset := none, isReversed := true }
  | _ => { r with zone := some t, offset := if t == ['z'] then some 0 else none }

def mayBeZone (r : Reading) (t : Token) : Bool :=
  r.hour.isSome && r.zone.isNone && isZoneName t

/-- The minutes of an offset behind its sign, and how many tokens they take: four digits, hours
and minutes around a colon, or hours alone. -/
def offsetSize? (after : List Token) : Option (Nat × Nat) :=
  match after with
  | [] => none
  | t :: rest =>
    if t.length == 4 then do
      return (60 * (← digits? (t.take 2)) + (← digits? (t.drop 2)), 1)
    else
      match rest with
      | [':'] :: minutes => do return (60 * (← digits? t) + (← minutes.head?.bind digits?), 3)
      | _ => if t.length ≤ 2 then (digits? t).map fun hours => (60 * hours, 1) else none

/-- An offset from universal time, and the zone that may stand in brackets behind it. -/
def zoneOffset (r : Reading) (isPlus : Bool) (after : List Token) : Step := do
  let (size, taken) ← offsetSize? after
  let r :=
    { r with
      offset := some (if isPlus != r.isReversed then (size : Int) else -size)
      isReversed := false }
  match after.drop taken with
  | space :: ['('] :: name :: [')'] :: _ =>
    if isFiller space && 3 ≤ name.length && r.mayBeZone name then
      return ({ r with zone := some name }, taken + 4)
    else return (r, taken)
  | _ => return (r, taken)

/-- A token between those before it, the last one first, and those behind it. -/
def token (r : Reading) (before : List Token) (t : Token) (after : List Token) : Step :=
  match Numeral.read? t, weekday? t, month? t, halfDay? t with
  | some n, _, _, _ => r.number before t n after
  | none, some day, _, _ => some ({ r with weekday := some day }, 0)
  | none, none, some m, _ => r.month m after
  | none, none, none, some half => do
    let hour ← r.hour
    if hour ≤ 12 then return ({ r with hour := some (half.hour hour) }, 0) else none
  | none, none, none, none =>
    if isNoNumber t then none
    else if r.offset.isNone && r.mayBeZone t then some (r.zoneName t after, 0)
    else if r.hour.isSome && (t == ['+'] || t == ['-']) then r.zoneOffset (t == ['+']) after
    else if isFiller t then some (r, 0)
    else none

/-- Read all tokens. -/
def tokens (r : Reading) (before : List Token) : List Token → Option Reading
  | [] => some r
  | t :: after =>
    match r.token before t after with
    | none => none
    | some (r, taken) => r.tokens ((after.take taken).reverse ++ t :: before) (after.drop taken)
termination_by after => after.length
decreasing_by simp only [List.length_drop, List.length_cons]; omega

/-- Whether anything of a date or a time has been read. -/
def isEmpty (r : Reading) : Bool :=
  r.parts.count == 0 && r.weekday.isNone && r.hour.isNone && r.minute.isNone && r.second.isNone &&
    r.zone.isNone && r.offset.isNone

/-- The offset from universal time. A zone is known only if it is universal time. -/
def universalOffset (r : Reading) : Option Int :=
  if r.zone.any isUniversal then some 0 else r.offset

/-- The point of time. What is missing is taken from the present day, cut to the length of the
month, and from midnight; a day of the week alone is the next such day. -/
def moment (present : Day) (r : Reading) : Option Moment := do
  let date ← r.parts.resolve
  let year := (date.year.map (fullYear present.year r.parts.hasCentury)).getD present.year
  let month := date.month.getD present.month
  let day := date.day.getD (min present.day (daysInMonth year month))
  let d : Day := ⟨year, month, day⟩
  guard d.isValid
  let d :=
    match r.weekday, date.day with
    | some weekday, none => d.toWeekday weekday
    | _, _ => d
  let m : Moment := ⟨d, r.hour.getD 0, r.minute.getD 0, r.second.getD 0, r.microsecond.getD 0,
    r.universalOffset⟩
  guard m.isValid
  return m

end Reading

/-- The point of time that a text names, seen from the given day. -/
def read? (present : Day) (s : String) : Option Moment := do
  let r ← Reading.tokens {} [] (tokens s.toList)
  if r.isEmpty then none else r.moment present

/-- The ISO 8601 form of a timestamp, completed from today's date; empty if it cannot be read. -/
def iso (s : String) : String := ((read? Host.today s).map Moment.text).getD ""

end BuildLog.Timestamp
