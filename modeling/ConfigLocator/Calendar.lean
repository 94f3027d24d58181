import ConfigLocator.Text.Basic

/-!
# Dates and times

Days of the Gregorian calendar in the years 1 to 9999, and times of day on them with an optional
distance to universal time. `Date.of?` and `Moment.of?` say which field is out of range.
-/

namespace ConfigLocator

structure Date where
  year : Nat
  month : Nat
  day : Nat
deriving DecidableEq, Repr

/-- A time on a day; the offset is in seconds east of universal time. -/
structure Moment where
  date : Date
  hour : Nat
  minute : Nat
  second : Nat
  microsecond : Nat
  offset : Option Int
deriving DecidableEq, Repr

/-- The field that makes a date or time impossible. -/
inductive CalendarFault where
  | year (year : Nat)
  | month
  | day
  | hour
  | minute
  | second
  | offset (seconds : Int)
deriving DecidableEq, Repr

def isLeapYear (year : Nat) : Bool := year % 4 == 0 && (year % 100 != 0 || year % 400 == 0)

def daysInMonth (year month : Nat) : Nat :=
  if month = 2 then (if isLeapYear year then 29 else 28)
  else if month = 4 ∨ month = 6 ∨ month = 9 ∨ month = 11 then 30
  else 31

def Date.of? (year month day : Nat) : Except CalendarFault Date :=
  if year < 1 ∨ 9999 < year then .error (.year year)
  else if month < 1 ∨ 12 < month then .error .month
  else if day < 1 ∨ daysInMonth year month < day then .error .day
  else .ok ⟨year, month, day⟩

def secondsPerDay : Int := 86400

/-- The offset lies within a day to either side; it is judged before the date. -/
def Moment.of? (year month day hour minute second microsecond : Nat) (offset : Option Int) :
    Except CalendarFault Moment := do
  match offset with
  | some seconds =>
    if seconds ≤ -secondsPerDay ∨ secondsPerDay ≤ seconds then throw (.offset seconds)
  | none => pure ()
  let date ← Date.of? year month day
  if 23 < hour then throw .hour
  if 59 < minute then throw .minute
  if 59 < second then throw .second
  return ⟨date, hour, minute, second, microsecond, offset⟩

/-- A length of time in whole days and seconds of the day. -/
def durationText (seconds : Int) : Text :=
  let days := seconds.fdiv secondsPerDay
  let rest := seconds.fmod secondsPerDay
  let dayPart : List Text := if days = 0 then [] else ["days=" ++ Text.ofInt days]
  let secondPart : List Text := if rest = 0 then [] else ["seconds=" ++ Text.ofInt rest]
  let parts : Text := if seconds = 0 then "0" else Text.join ", " (dayPart ++ secondPart)
  "datetime.timedelta(" ++ parts ++ ")"

namespace CalendarFault

def message : CalendarFault → Text
  | year y => "year " ++ Text.ofNat y ++ " is out of range"
  | month => "month must be in 1..12"
  | day => "day is out of range for month"
  | hour => "hour must be in 0..23"
  | minute => "minute must be in 0..59"
  | second => "second must be in 0..59"
  | offset seconds =>
    "offset must be a timedelta strictly between -timedelta(hours=24) and timedelta(hours=24), not "
      ++ durationText seconds ++ "."

end CalendarFault

/-! ## Text -/

def Date.toText (d : Date) : Text :=
  Text.ofNatPadded 4 d.year ++ ('-' : Nat) :: Text.ofNatPadded 2 d.month ++
    ('-' : Nat) :: Text.ofNatPadded 2 d.day

/-- `+hh:mm`, with seconds where there are any. -/
def offsetText (seconds : Int) : Text :=
  let n := seconds.natAbs
  ((if seconds < 0 then '-' else '+' : Char) : Nat) :: Text.ofNatPadded 2 (n / 3600) ++
    (':' : Nat) :: Text.ofNatPadded 2 (n / 60 % 60) ++
    (if n % 60 = 0 then [] else (':' : Nat) :: Text.ofNatPadded 2 (n % 60))

/-- Date and time with a separator between them; the fraction is left out when it is zero. -/
def Moment.toText (separator : Nat) (m : Moment) : Text :=
  m.date.toText ++ separator :: Text.ofNatPadded 2 m.hour ++
    (':' : Nat) :: Text.ofNatPadded 2 m.minute ++ (':' : Nat) :: Text.ofNatPadded 2 m.second ++
    (if m.microsecond = 0 then [] else ('.' : Nat) :: Text.ofNatPadded 6 m.microsecond) ++
    (match m.offset with
      | some seconds => offsetText seconds
      | none => [])

/-! ## Order of moments -/

/-- Days of the first months of a year. -/
def daysInMonths (year : Nat) : (months : Nat) → Nat
  | 0 => 0
  | months + 1 => daysInMonths year months + daysInMonth year (months + 1)

/-- Days from the first day of year 1. -/
def Date.dayNumber (d : Date) : Nat :=
  let y := d.year - 1
  y * 365 + y / 4 - y / 100 + y / 400 + daysInMonths d.year (d.month - 1) + d.day

/-- Microseconds from the start of year 1, in universal time where the offset is known. -/
def Moment.instant (m : Moment) : Int :=
  let seconds : Int := m.date.dayNumber * 86400 + m.hour * 3600 + m.minute * 60 + m.second
  (seconds - m.offset.getD 0) * 1000000 + m.microsecond

/-- The same point in time; one with an offset never equals one without. -/
def Moment.same (a b : Moment) : Bool :=
  a.offset.isSome == b.offset.isSome && a.instant == b.instant

end ConfigLocator
