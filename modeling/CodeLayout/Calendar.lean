/-!
# Dates and moments

A date is a day of the Gregorian calendar in the years 1 to 9999. A moment is a
date with a time of day down to the microsecond, and may have an offset from
universal time.
-/

set_option autoImplicit false

namespace CodeLayout

/-- Why there is no such date or moment. -/
inductive CalendarError where
  /-- The year is not between 1 and 9999. -/
  | year (year : Nat)
  /-- There is no such month. -/
  | month
  /-- The month has no such day. -/
  | day
  /-- There is no such hour. -/
  | hour
  /-- There is no such minute. -/
  | minute
  /-- There is no such second. -/
  | second
  /-- The offset, in seconds, is a day or more. -/
  | offset (seconds : Int)
deriving DecidableEq, Repr

/-- A day of the calendar. -/
structure Date where
  /-- The year. -/
  year : Nat
  /-- The month, from 1. -/
  month : Nat
  /-- The day of the month, from 1. -/
  day : Nat
deriving DecidableEq, Repr

/-- A day with a time of day. -/
structure Moment where
  /-- The day. -/
  date : Date
  /-- The hour. -/
  hour : Nat
  /-- The minute. -/
  minute : Nat
  /-- The second. -/
  second : Nat
  /-- The microsecond. -/
  microsecond : Nat
  /-- The seconds ahead of universal time, if known. -/
  offset : Option Int
deriving DecidableEq, Repr

/-- A number with at least so many digits. -/
def paddedNumber (width number : Nat) : String :=
  let digits := Nat.toDigits 10 number
  String.ofList (List.replicate (width - digits.length) '0' ++ digits)

/-- A length of time in microseconds, as whole days, the seconds of the last day, and
the microseconds of the last second. -/
def durationParts (microseconds : Int) : Int × Int × Int :=
  let seconds := microseconds.fdiv 1000000
  (seconds.fdiv 86400, seconds.fmod 86400, microseconds.fmod 1000000)

/-- A length of time in microseconds as an expression that makes it. -/
def durationConstructor (microseconds : Int) : String :=
  let (days, seconds, rest) := durationParts microseconds
  let shown := (if days = 0 then [] else ["days=" ++ toString days]) ++
    (if seconds = 0 then [] else ["seconds=" ++ toString seconds]) ++
    (if rest = 0 then [] else ["microseconds=" ++ toString rest])
  "datetime.timedelta(" ++ (if shown.isEmpty then "0" else ", ".intercalate shown) ++ ")"

/-- A length of time in microseconds as days and a time of day. -/
def durationText (microseconds : Int) : String :=
  let (days, seconds, rest) := durationParts microseconds
  let whole := seconds.toNat
  (if days = 0 then ""
    else toString days ++ (if days.natAbs = 1 then " day, " else " days, ")) ++
    toString (whole / 3600) ++ ":" ++ paddedNumber 2 (whole / 60 % 60) ++ ":" ++
    paddedNumber 2 (whole % 60) ++
    (if rest = 0 then "" else "." ++ paddedNumber 6 rest.toNat)

/-- The wording of a calendar error. -/
def CalendarError.message : CalendarError → String
  | .year number => "year " ++ toString number ++ " is out of range"
  | .month => "month must be in 1..12"
  | .day => "day is out of range for month"
  | .hour => "hour must be in 0..23"
  | .minute => "minute must be in 0..59"
  | .second => "second must be in 0..59"
  | .offset seconds =>
    "offset must be a timedelta strictly between -timedelta(hours=24) and " ++
      "timedelta(hours=24), not " ++ durationConstructor (seconds * 1000000) ++ "."

namespace Date

/-- Whether a year has a 29th of February. -/
def isLeap (year : Nat) : Bool :=
  year % 4 == 0 && (year % 100 != 0 || year % 400 == 0)

/-- The number of days of a month. -/
def daysInMonth (year month : Nat) : Nat :=
  if month == 2 then
    if isLeap year then 29 else 28
  else if [4, 6, 9, 11].contains month then
    30
  else
    31

/-- The date with these numbers, if there is one. -/
def make (year month day : Nat) : Except CalendarError Date :=
  if year < 1 || 9999 < year then
    .error (.year year)
  else if month < 1 || 12 < month then
    .error .month
  else if day < 1 || daysInMonth year month < day then
    .error .day
  else
    .ok { year, month, day }

/-- The number of days in the first months of a year. -/
def daysInMonths (year : Nat) : Nat → Nat
  | 0 => 0
  | count + 1 => daysInMonths year count + daysInMonth year (count + 1)

/-- The number of days before a date since the first day of the year 1. -/
def dayNumber (date : Date) : Nat :=
  let before := date.year - 1
  before * 365 + before / 4 - before / 100 + before / 400 +
    daysInMonths date.year (date.month - 1) + (date.day - 1)

/-- The number of days before a year. -/
def daysBefore (year : Nat) : Nat :=
  let before := year - 1
  before * 365 + before / 4 - before / 100 + before / 400

/-- The month and the day of the month of a day of a year, counted from 0, among so many
last months of the year. -/
def monthOfDay (year : Nat) : Nat → Nat → Nat × Nat
  | 0, day => (12, day + 1)
  | left + 1, day =>
    let month := 12 - left
    let days := daysInMonth year month
    if day < days then (month, day + 1) else monthOfDay year left (day - days)

/-- The number of the last day. -/
def lastDayNumber : Nat := daysBefore 10000 - 1

/-- The date with so many days before it, if there is one. -/
def ofDayNumber? (number : Int) : Option Date :=
  if number < 0 || lastDayNumber < number then
    none
  else
    let day := number.toNat
    let guess := day / 366 + 1
    let near := guess + (day - daysBefore guess) / 366
    let year := if daysBefore (near + 1) ≤ day then near + 1 else near
    let (month, dayOfMonth) := monthOfDay year 12 (day - daysBefore year)
    some { year, month, day := dayOfMonth }

/-- The date as year, month and day with dashes. -/
def text (date : Date) : String :=
  paddedNumber 4 date.year ++ "-" ++ paddedNumber 2 date.month ++ "-" ++ paddedNumber 2 date.day

/-- The date as an expression that makes it. -/
def constructor (date : Date) : String :=
  "datetime.date(" ++ toString date.year ++ ", " ++ toString date.month ++ ", " ++
    toString date.day ++ ")"

end Date

namespace Moment

/-- The moment with these numbers, if there is one. -/
def make (year month day hour minute second microsecond : Nat) (offset : Option Int) :
    Except CalendarError Moment :=
  match offset.filter (fun seconds => 86400 ≤ seconds.natAbs) with
  | some seconds => .error (.offset seconds)
  | none =>
    match Date.make year month day with
    | .error error => .error error
    | .ok date =>
      if 23 < hour then
        .error .hour
      else if 59 < minute then
        .error .minute
      else if 59 < second then
        .error .second
      else
        .ok { date, hour, minute, second, microsecond, offset }

/-- The microseconds since the start of the year 1, in universal time if the
offset is known. -/
def instant (moment : Moment) : Int :=
  let seconds : Int := moment.date.dayNumber * 86400 + moment.hour * 3600 + moment.minute * 60 +
    moment.second
  (seconds - moment.offset.getD 0) * 1000000 + moment.microsecond

/-- The microseconds since the start of the year 1 by its own clock. -/
def clock (moment : Moment) : Int :=
  ((moment.date.dayNumber * 86400 + moment.hour * 3600 + moment.minute * 60 + moment.second : Nat) :
    Int) * 1000000 + moment.microsecond

/-- The moment so many microseconds later by its own clock, if there is one. -/
def later? (moment : Moment) (microseconds : Int) : Option Moment :=
  let clock := moment.clock + microseconds
  let seconds := (clock.fdiv 1000000).fmod 86400 |>.toNat
  (Date.ofDayNumber? (clock.fdiv 86400000000)).map fun date =>
    { date, hour := seconds / 3600, minute := seconds / 60 % 60, second := seconds % 60,
      microsecond := (clock.fmod 1000000).toNat, offset := moment.offset }

/-- Whether two moments are the same. A moment with an offset never equals one
without. -/
def same (left right : Moment) : Bool :=
  left.offset.isSome == right.offset.isSome && left.instant == right.instant

/-- The microseconds since midnight. -/
def timeOfDay (moment : Moment) : Nat :=
  (moment.hour * 3600 + moment.minute * 60 + moment.second) * 1000000 + moment.microsecond

/-- The offset as hours and minutes with a sign, and seconds if there are any. -/
def offsetText (seconds : Int) : String :=
  let rest := seconds.natAbs % 60
  let minutes := seconds.natAbs / 60
  (if seconds < 0 then "-" else "+") ++ paddedNumber 2 (minutes / 60) ++ ":" ++
    paddedNumber 2 (minutes % 60) ++ (if rest = 0 then "" else ":" ++ paddedNumber 2 rest)

/-- The name of an offset from universal time. -/
def zoneText (seconds : Int) : String := if seconds = 0 then "UTC" else "UTC" ++ offsetText seconds

/-- An offset from universal time as an expression that makes it. -/
def zoneConstructor (seconds : Int) : String :=
  if seconds = 0 then "datetime.timezone.utc"
  else "datetime.timezone(" ++ durationConstructor (seconds * 1000000) ++ ")"

/-- The time of day. -/
def clockText (moment : Moment) : String :=
  paddedNumber 2 moment.hour ++ ":" ++ paddedNumber 2 moment.minute ++
    ":" ++ paddedNumber 2 moment.second ++
    (if moment.microsecond = 0 then "" else "." ++ paddedNumber 6 moment.microsecond) ++
    (match moment.offset with
      | none => ""
      | some seconds => offsetText seconds)

/-- The moment as date and time with a blank between them. -/
def text (moment : Moment) : String := moment.date.text ++ " " ++ moment.clockText

/-- Numbers as the arguments of an expression that makes something, with the offset. -/
def constructorOf (moment : Moment) (name : String) (numbers : List Nat) : String :=
  let times := if moment.microsecond = 0 then
      if moment.second = 0 then [] else [moment.second]
    else [moment.second, moment.microsecond]
  let zone := match moment.offset with
    | none => []
    | some seconds => ["tzinfo=" ++ zoneConstructor seconds]
  name ++ "(" ++ ", ".intercalate ((numbers ++ times).map toString ++ zone) ++ ")"

/-- The moment as an expression that makes it. -/
def constructor (moment : Moment) : String :=
  moment.constructorOf "datetime.datetime"
    [moment.date.year, moment.date.month, moment.date.day, moment.hour, moment.minute]

/-- The time of day as an expression that makes it. -/
def clockConstructor (moment : Moment) : String :=
  moment.constructorOf "datetime.time" [moment.hour, moment.minute]

end Moment

end CodeLayout
