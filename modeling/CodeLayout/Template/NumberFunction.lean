import CodeLayout.Template.Arithmetic
import CodeLayout.Template.TextFunction

/-!
# Functions of numbers, dates and bytes

A number can be taken apart, a date gives its weekday, a moment its date and its time of
day, and bytes the text that they encode.

The zone of the system is not known: a moment without an offset has no number of seconds
here.
-/

set_option autoImplicit false

namespace CodeLayout

namespace Template

/-! ## Numbers -/

/-- The digits of a number in base two. -/
def binaryDigits (number : Int) : List Char := Nat.toDigits 2 number.natAbs

/-- Calls a function of a whole number. -/
def callInteger (number : Int) (name : String) : Object :=
  match name with
  | "bit_length" => .int (if number = 0 then 0 else (binaryDigits number).length)
  | "bit_count" => .int ((binaryDigits number).filter (· == '1')).length
  | "as_integer_ratio" => .tuple [.int number, .int 1]
  | _ => .int number

/-- A floating point number in base sixteen. -/
def hexadecimalText (number : Float) : String :=
  match FloatParts.ofFloat number with
  | .notANumber => "nan"
  | .infinite negative => if negative then "-inf" else "inf"
  | .finite negative mantissa exponent =>
    let sign := if negative then "-" else ""
    let one := Nat.pow 2 52
    let power : Int := exponent + 52
    if mantissa = 0 then
      sign ++ "0x0.0p+0"
    else
      let digits := Nat.toDigits 16 (mantissa % one)
      sign ++ "0x" ++ toString (mantissa / one) ++ "." ++
        String.ofList (List.replicate (13 - digits.length) '0' ++ digits) ++ "p" ++
        (if power < 0 then "" else "+") ++ toString power

/-- Calls a function of a floating point number. -/
def callFloat (number : Float) (name : String) : Run Object := do
  match name with
  | "is_integer" => return .bool (number.floor == number && !number.isInf)
  | "hex" => return .text (hexadecimalText number)
  | "as_integer_ratio" => do
    let (numerator, denominator) ← fractionOf number
    let divisor := Nat.gcd numerator.natAbs denominator
    return .tuple [.int (numerator / divisor), .int (denominator / divisor : Nat)]
  | _ => return .float number

/-! ## Dates -/

/-- The result of making a date, or the bad value that it was made of. -/
def ofCalendar {α : Type} : Except CalendarError α → Run α
  | .ok made => return made
  | .error error => badValue error.message

/-- A number of a date that may be replaced. -/
def replacedNumber (old : Nat) : Option Object → Run Nat
  | none => return old
  | some object => do
    let number ← smallCountOf object
    return if number < 0 then 100000 else number.toNat

/-- A date with some of its numbers replaced. -/
def replaceDate (date : Date) (arguments : List (Option Object)) : Run Date := do
  let number (index old : Nat) : Run Nat := replacedNumber old ((arguments[index]?).bind id)
  ofCalendar (Date.make (← number 0 date.year) (← number 1 date.month) (← number 2 date.day))

/-- A moment with some of its numbers replaced. -/
def replaceMoment (moment : Moment) (arguments : List (Option Object)) : Run Moment := do
  let number (index old : Nat) : Run Nat := replacedNumber old ((arguments[index]?).bind id)
  let date ← replaceDate moment.date arguments
  let microsecond ← number 6 moment.microsecond
  if 999999 < microsecond then
    badValue "microsecond must be in 0..999999"
  else
    ofCalendar (Moment.make date.year date.month date.day (← number 3 moment.hour)
      (← number 4 moment.minute) (← number 5 moment.second) microsecond moment.offset)

/-- A moment by the directives of a text. -/
def callDirected (moment : Moment) (directives : Object) : Run Object := do
  return .text (← directedText moment (← textArgument "strftime" 1 directives).toList)

/-- What a date and a moment have in common. -/
def callDay (date : Date) (moment : Moment) (name : String) (arguments : List (Option Object)) :
    Run Object := do
  match name with
  | "weekday" => return .int date.weekday
  | "isoweekday" => return .int (date.weekday + 1)
  | "toordinal" => return .int (date.dayNumber + 1)
  | "ctime" => return .text (date.inWords moment.clockInSeconds)
  | _ => callDirected moment (argument arguments 0 .null)

/-- Calls a function of a date. -/
def callDate (date : Date) (name : String) (arguments : List (Option Object)) :
    Run Object := do
  match name with
  | "isoformat" => return .text date.text
  | "replace" => return .scalar (.date (← replaceDate date arguments))
  | name => callDay date (.ofDate date) name arguments

/-- A time of day as precise as asked. -/
def preciseClock (moment : Moment) (precision : Object) : Run String := do
  let zone := (moment.offset.map Moment.offsetText).getD ""
  let seconds := moment.clockInSeconds
  match precision.text? with
  | some "auto" => return moment.clockText
  | some "hours" => return paddedNumber 2 moment.hour ++ zone
  | some "minutes" =>
    return paddedNumber 2 moment.hour ++ ":" ++ paddedNumber 2 moment.minute ++ zone
  | some "seconds" => return seconds ++ zone
  | some "milliseconds" =>
    return seconds ++ "." ++ paddedNumber 3 (moment.microsecond / 1000) ++ zone
  | some "microseconds" => return seconds ++ "." ++ paddedNumber 6 moment.microsecond ++ zone
  | some _ => badValue "Unknown timespec value"
  | none => do return (← textArgument "isoformat" 2 precision)

/-- The character between a date and a time of day. -/
def separatorOf (object : Object) : Run String :=
  match object.text? with
  | some plain =>
    if plain.length = 1 then return plain
    else mismatch ("isoformat() argument 1 must be a unicode character, not " ++ object.typeName)
  | none =>
    mismatch ("isoformat() argument 1 must be a unicode character, not " ++ object.typeName)

/-- What a moment and a time of day have in common: the offset and its name. -/
def callZone (moment : Moment) (name : String) : Object :=
  match name, moment.offset with
  | "utcoffset", some seconds => .duration (seconds * 1000000)
  | "tzname", some seconds => .text (Moment.zoneText seconds)
  | _, _ => .null

/-- The first moment of the year 1970, in microseconds since the start of the year 1. -/
def epoch : Int := 62135596800000000

/-- Calls a function of a moment. -/
def callMoment (moment : Moment) (name : String) (arguments : List (Option Object)) :
    Run Object := do
  match name with
  | "isoformat" => do
    let separator ← separatorOf (argument arguments 0 (.text "T"))
    let clock ← preciseClock moment (argument arguments 1 (.text "auto"))
    return .text (moment.date.text ++ separator ++ clock)
  | "replace" =>
    if (arguments.drop 7).any Option.isSome then fail (.unsupported name)
    else return .scalar (.moment (← replaceMoment moment arguments))
  | "date" => return .scalar (.date moment.date)
  | "time" => return .clock { moment with offset := none }
  | "timestamp" =>
    if moment.offset.isNone then fail (.unsupported name)
    else lift (Number.quotient (moment.instant - epoch) 1000000)
  | "utcoffset" => return callZone moment name
  | "tzname" => return callZone moment name
  | "dst" => return .null
  | name => callDay moment.date moment name arguments

/-- Calls a function of a time of day. -/
def callClock (moment : Moment) (name : String) (arguments : List (Option Object)) :
    Run Object := do
  match name with
  | "isoformat" => return .text (← preciseClock moment (argument arguments 0 (.text "auto")))
  | "strftime" =>
    let first : Date := { year := 1900, month := 1, day := 1 }
    callDirected { moment with date := first } (argument arguments 0 .null)
  | name => return callZone moment name

/-! ## Bytes -/

/-- The text of some bytes of which each is one character below a limit. -/
def decodePlain (codec : String) (limit : Nat) (raw : List UInt8) : Run Object :=
  match raw.findIdx? fun byte => limit ≤ byte.toNat with
  | none => return .text (String.ofList (raw.map fun byte => Char.ofNat byte.toNat))
  | some place =>
    fail (.decoding ("'" ++ codec ++ "' codec can't decode byte 0x" ++
      String.ofList (Nat.toDigits 16 ((raw[place]?).getD 0).toNat) ++ " in position " ++
      toString place ++ ": ordinal not in range(" ++ toString limit ++ ")"))

/-- The text of some bytes in an encoding. -/
def decodeBytes (raw : List UInt8) (encoding : Object) : Run Object := do
  match encoding.text? with
  | none =>
    mismatch ("decode() argument 'encoding' must be str, not " ++ argumentName encoding)
  | some name =>
    match Encoding.find? name with
    | none => fail (.unsupported name)
    | some .ascii => decodePlain "ascii" 128 raw
    | some .latin => decodePlain "latin-1" 256 raw
    | some .utf8 =>
      match Utf8.decode raw with
      | .ok plain => return .text plain
      | .error error => fail (.decoding error.message)

/-- Calls a function of a sequence of bytes. To mend what is no text, and to put something
between the bytes, have no meaning here. -/
def callBytes (raw : List UInt8) (name : String) (arguments : List (Option Object)) :
    Run Object := do
  match name, arguments with
  | "decode", [encoding, none] => decodeBytes raw (encoding.getD (.text "utf-8"))
  | "hex", [none, none] =>
    return .text (String.ofList (raw.flatMap fun byte => hexText 2 byte.toNat))
  | _, _ => fail (.unsupported name)

end Template

end CodeLayout
