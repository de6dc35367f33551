import CodeLayout.Calendar

/-!
# Texts of dates by directives

A text with directives, each a percent sign and a letter, is filled with the numbers and
names of a moment: its year, its month, its weekday, its week. What is no directive stays
as it is.
-/

set_option autoImplicit false

namespace CodeLayout

/-- The names of the days of the week, from Monday. -/
def weekdayNames : List String :=
  ["Monday", "Tuesday", "Wednesday", "Thursday", "Friday", "Saturday", "Sunday"]

/-- The names of the months. -/
def monthNames : List String :=
  ["January", "February", "March", "April", "May", "June", "July", "August", "September",
    "October", "November", "December"]

/-- The first three letters of a name. -/
def firstLetters (name : String) : String := (name.take 3).toString

/-- A number with at least so many places, filled up with blanks. -/
def blankNumber (width number : Nat) : String :=
  let digits := Nat.toDigits 10 number
  String.ofList (List.replicate (width - digits.length) ' ' ++ digits)

namespace Date

/-- The day of the week, from 0 for Monday. -/
def weekday (date : Date) : Nat := date.dayNumber % 7

/-- The name of the day of the week. -/
def weekdayName (date : Date) : String := (weekdayNames[date.weekday]?).getD ""

/-- The name of the month. -/
def monthName (date : Date) : String := (monthNames[date.month - 1]?).getD ""

/-- The day of the year, from 1. -/
def dayOfYear (date : Date) : Nat := daysInMonths date.year (date.month - 1) + date.day

/-- The day number of the Monday of the first week of a year. The first week is the one
with the first Thursday. -/
def firstMonday (year : Nat) : Int :=
  let first := daysBefore year
  let weekday := first % 7
  (first : Int) - weekday + (if 3 < weekday then 7 else 0)

/-- The year that a date's week belongs to, the number of the week, and the day of the
week from 1. -/
def weekDate (date : Date) : Nat × Nat × Nat :=
  let day : Int := date.dayNumber
  let year :=
    if day < firstMonday date.year then date.year - 1
    else if firstMonday (date.year + 1) ≤ day then date.year + 1
    else date.year
  (year, ((day - firstMonday year) / 7).toNat + 1, date.weekday + 1)

/-- The number of the week in a year whose weeks begin on a day of the week, from 0 for
Monday. The days before the first whole week are in week 0. -/
def weekFrom (start : Nat) (date : Date) : Nat :=
  (date.dayOfYear + 6 - (date.weekday + 7 - start) % 7) / 7

/-- The date and a time of day in words. -/
def inWords (date : Date) (clock : String) : String :=
  firstLetters date.weekdayName ++ " " ++ firstLetters date.monthName ++ " " ++
    blankNumber 2 date.day ++ " " ++ clock ++ " " ++ paddedNumber 4 date.year

end Date

namespace Moment

/-- The hour on a clock of twelve hours. -/
def shortHour (moment : Moment) : Nat := (moment.hour + 11) % 12 + 1

/-- The time of day in hours, minutes and seconds. -/
def clockInSeconds (moment : Moment) : String :=
  paddedNumber 2 moment.hour ++ ":" ++ paddedNumber 2 moment.minute ++ ":" ++
    paddedNumber 2 moment.second

/-- The offset in hours and minutes with a sign and no colon. -/
def plainOffset (seconds : Int) : String :=
  String.ofList ((offsetText seconds).toList.filter (· != ':'))

/-- The month, the day and the year, with slashes. -/
def shortDate (date : Date) : String :=
  paddedNumber 2 date.month ++ "/" ++ paddedNumber 2 date.day ++ "/" ++
    paddedNumber 2 (date.year % 100)

/-- What a directive with a letter stands for, if there is one. -/
def directive? (moment : Moment) (letter : Char) : Option String :=
  let date := moment.date
  let clock := moment.clockInSeconds
  let half := if moment.hour < 12 then "am" else "pm"
  match letter with
  | 'a' => some (firstLetters date.weekdayName)
  | 'A' => some date.weekdayName
  | 'b' => some (firstLetters date.monthName)
  | 'B' => some date.monthName
  | 'c' => some (firstLetters date.weekdayName ++ " " ++ firstLetters date.monthName ++ " " ++
      blankNumber 2 date.day ++ " " ++ clock ++ " " ++ toString date.year)
  | 'C' => some (paddedNumber 2 (date.year / 100))
  | 'd' => some (paddedNumber 2 date.day)
  | 'D' => some (shortDate date)
  | 'e' => some (blankNumber 2 date.day)
  | 'f' => some (paddedNumber 6 moment.microsecond)
  | 'F' => some (toString date.year ++ "-" ++ paddedNumber 2 date.month ++ "-" ++
      paddedNumber 2 date.day)
  | 'g' => some (paddedNumber 2 (date.weekDate.1 % 100))
  | 'G' => some (toString date.weekDate.1)
  | 'h' => some (firstLetters date.monthName)
  | 'H' => some (paddedNumber 2 moment.hour)
  | 'I' => some (paddedNumber 2 moment.shortHour)
  | 'j' => some (paddedNumber 3 date.dayOfYear)
  | 'k' => some (blankNumber 2 moment.hour)
  | 'l' => some (blankNumber 2 moment.shortHour)
  | 'm' => some (paddedNumber 2 date.month)
  | 'M' => some (paddedNumber 2 moment.minute)
  | 'n' => some "\n"
  | 'p' => some half.toUpper
  | 'P' => some half
  | 'r' => some (paddedNumber 2 moment.shortHour ++ ":" ++ paddedNumber 2 moment.minute ++ ":" ++
      paddedNumber 2 moment.second ++ " " ++ half.toUpper)
  | 'R' => some (paddedNumber 2 moment.hour ++ ":" ++ paddedNumber 2 moment.minute)
  | 'S' => some (paddedNumber 2 moment.second)
  | 't' => some "\t"
  | 'T' => some clock
  | 'u' => some (toString (date.weekday + 1))
  | 'U' => some (paddedNumber 2 (date.weekFrom 6))
  | 'V' => some (paddedNumber 2 date.weekDate.2.1)
  | 'w' => some (toString ((date.weekday + 1) % 7))
  | 'W' => some (paddedNumber 2 (date.weekFrom 0))
  | 'x' => some (shortDate date)
  | 'X' => some clock
  | 'y' => some (paddedNumber 2 (date.year % 100))
  | 'Y' => some (toString date.year)
  | 'z' => some ((moment.offset.map plainOffset).getD "")
  | 'Z' => some ((moment.offset.map zoneText).getD "")
  | '%' => some "%"
  | _ => none

/-- A text with its directives filled. -/
def fillDirectives (moment : Moment) : List Char → String
  | [] => ""
  | '%' :: letter :: rest =>
    (moment.directive? letter).getD ("%" ++ String.singleton letter) ++
      moment.fillDirectives rest
  | first :: rest => String.singleton first ++ moment.fillDirectives rest

/-- The first moment of a date. -/
def ofDate (date : Date) : Moment :=
  { date, hour := 0, minute := 0, second := 0, microsecond := 0, offset := none }

end Moment

end CodeLayout
