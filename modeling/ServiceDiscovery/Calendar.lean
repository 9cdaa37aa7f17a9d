import ServiceDiscovery.Text.Decimal

/-!
Days and moments of the Gregorian calendar, from year 1 to year 9999. A moment may carry its
distance from universal time. Moments can also be counted in microseconds since the start of 1970.
-/

namespace ServiceDiscovery

structure Date where
  year : Nat
  month : Nat
  day : Nat
  deriving DecidableEq, Repr

/-- A time of day on a day. The offset, in minutes, says how far local time is ahead of universal
time; without one the moment is local. -/
structure Moment where
  date : Date
  hour : Nat
  minute : Nat
  second : Nat
  microsecond : Nat
  offset : Option Int
  deriving DecidableEq, Repr

namespace Calendar

open Text

def isLeap (year : Nat) : Bool :=
  year % 4 = 0 && (year % 100 ≠ 0 || year % 400 = 0)

def daysInMonth (year month : Nat) : Nat :=
  if month = 2 then (if isLeap year then 29 else 28)
  else if month = 4 || month = 6 || month = 9 || month = 11 then 30
  else 31

inductive Fault where
  | year (value : Int)
  | month
  | day
  | hour
  | minute
  | second
  | offset (days seconds : Int)
  deriving DecidableEq, Repr

def Fault.message : Fault → String
  | .year value => "year " ++ ofInt value ++ " is out of range"
  | .month => "month must be in 1..12"
  | .day => "day is out of range for month"
  | .hour => "hour must be in 0..23"
  | .minute => "minute must be in 0..59"
  | .second => "second must be in 0..59"
  | .offset days seconds =>
      let part (name : String) (n : Int) : List String :=
        if n = 0 then [] else [name ++ "=" ++ ofInt n]
      let parts := part "days" days ++ part "seconds" seconds
      "offset must be a timedelta strictly between -timedelta(hours=24) and timedelta(hours=24)," ++
        " not datetime.timedelta(" ++ (if parts = [] then "0" else ", ".intercalate parts) ++ ")."

def lastYear : Nat := 9999

def date (year month day : Nat) : Except Fault Date :=
  if year = 0 || lastYear < year then .error (.year year)
  else if month = 0 || 12 < month then .error .month
  else if day = 0 || daysInMonth year month < day then .error .day
  else .ok ⟨year, month, day⟩

/-- The days before a year, counted from the first of January of year 1. -/
def daysBeforeYear (year : Nat) : Nat :=
  let past := year - 1
  past * 365 + past / 4 - past / 100 + past / 400

def daysBeforeMonth (year month : Nat) : Nat :=
  ((List.range (month - 1)).map fun i => daysInMonth year (i + 1)).foldr (· + ·) 0

/-- The number of a day, where the first of January of year 1 has number zero. -/
def dayNumber (d : Date) : Nat :=
  daysBeforeYear d.year + daysBeforeMonth d.year d.month + (d.day - 1)

/-- The day number of the first of January 1970. -/
def epochDay : Nat := 719162

/-- Finds the month of a day of the year, counted from zero, from a month on. -/
def monthOf (year : Nat) : Nat → Nat → Nat → Nat × Nat
  | 0, month, day => (month, day)
  | more + 1, month, day =>
      if day < daysInMonth year month then (month, day)
      else monthOf year more (month + 1) (day - daysInMonth year month)

/-- The day with a number. Four hundred years have 146097 days, one hundred 36524, four 1461. -/
def ofDayNumber (number : Nat) : Date :=
  let eras := number / 146097
  let inEra := number % 146097
  let centuries := min (inEra / 36524) 3
  let inCentury := inEra - centuries * 36524
  let leaps := inCentury / 1461
  let inLeap := inCentury % 1461
  let years := min (inLeap / 365) 3
  let year := eras * 400 + centuries * 100 + leaps * 4 + years + 1
  let (month, day) := monthOf year 11 1 (inLeap - years * 365)
  ⟨year, month, day + 1⟩

/-- The year in which a number of seconds after the start of 1970 lies, in universal time. -/
def yearOfSeconds (seconds : Int) : Int :=
  let days := seconds.fdiv 86400 + epochDay
  (ofDayNumber (days.fmod 146097).toNat).year + days.fdiv 146097 * 400

/-- The moment a number of microseconds after the start of 1970, in universal time. -/
def ofMicroseconds (n : Int) : Except Fault Moment :=
  let seconds := n.fdiv 1000000
  let year := yearOfSeconds seconds
  if year < 1 || lastYear < year then .error (.year year)
  else
    let d := ofDayNumber (seconds.fdiv 86400 + epochDay).toNat
    let s := (seconds.fmod 86400).toNat
    .ok ⟨d, s / 3600, s / 60 % 60, s % 60, (n.fmod 1000000).toNat, none⟩

end Calendar

open Text

/-- Year, month and day with hyphens between them. -/
def Date.text (d : Date) : String :=
  String.ofList (padded 4 d.year ++ '-' :: padded 2 d.month ++ '-' :: padded 2 d.day)

/-- An offset from universal time: a sign, hours and minutes. -/
def offsetText (minutes : Int) : List Char :=
  (if minutes < 0 then '-' else '+') ::
    padded 2 (minutes.natAbs / 60) ++ ':' :: padded 2 (minutes.natAbs % 60)

/-- Hours, minutes and seconds with colons between them. -/
def Moment.clock (m : Moment) : List Char :=
  padded 2 m.hour ++ ':' :: padded 2 m.minute ++ ':' :: padded 2 m.second

/-- Day and time of day with a separator. Microseconds show only when there are any, and an offset
only when there is one. -/
def Moment.text (separator : Char) (m : Moment) : String :=
  let fraction := if m.microsecond = 0 then [] else '.' :: padded 6 m.microsecond
  m.date.text ++ String.ofList
    (separator :: m.clock ++ fraction ++ (m.offset.map offsetText).getD [])

/-- Day and time of day down to milliseconds, which are cut off and not rounded. -/
def Moment.textInMilliseconds (m : Moment) : String :=
  m.date.text ++ String.ofList ('T' :: m.clock ++ '.' :: padded 3 (m.microsecond / 1000))

/-- The moment in universal time, in seconds and microseconds, if it has an offset. -/
def Moment.universal? (m : Moment) : Option (Int × Nat) :=
  m.offset.map fun offset =>
    ((Calendar.dayNumber m.date * 86400 + m.hour * 3600 + m.minute * 60 + m.second : Nat)
      - offset * 60, m.microsecond)

end ServiceDiscovery
