import GatewayPolicy.Text.Blank
import GatewayPolicy.Text.Integer
/-!
# Timestamps

A timestamp is a point in time, given as a count of seconds and a part of a second. It is written in
universal time as date, `T`, time and `Z`. It is read with any offset, and with blanks in front of
its numbers, signs and colons.

Dates follow the Gregorian calendar, also before it was introduced. Days are counted in years that
begin in March, so that the day that some years lack is the last one of its year.
-/

namespace GatewayPolicy

/-- A point in time. -/
structure Timestamp where
  /-- Seconds since the start of the year 1970; leap seconds do not count. -/
  seconds : Int
  /-- Nanoseconds since that second; a leap second lengthens the second in front of it. -/
  nanoseconds : Nat := 0
  deriving DecidableEq, Repr

/-- A day of the calendar. -/
structure CalendarDate where
  /-- The year; year zero comes before year one. -/
  year : Int
  /-- The month, from one on. -/
  month : Nat
  /-- The day of the month, from one on. -/
  day : Nat
  deriving DecidableEq, Repr

namespace CalendarDate

/-- The years that dates may have. -/
def isYear (year : Int) : Bool := -262143 ≤ year && year ≤ 262142

/-- The year has a day more. -/
def isLeapYear (year : Int) : Bool := year % 4 = 0 && (year % 100 ≠ 0 || year % 400 = 0)

/-- The days of a month. -/
def daysInMonth (year : Int) (month : Nat) : Nat :=
  if month = 2 then (if isLeapYear year then 29 else 28)
  else if [4, 6, 9, 11].contains month then 30
  else 31

/-- The day exists. -/
def isValid (d : CalendarDate) : Bool :=
  isYear d.year && 1 ≤ d.month && d.month ≤ 12 && 1 ≤ d.day && d.day ≤ daysInMonth d.year d.month

/-- The days of four hundred years. -/
def daysPerEra : Nat := 146097

/-- The days from the first of March of year zero to the start of the year 1970. -/
def daysBeforeEpoch : Nat := 719468

/-- The days from the start of the year 1970. -/
def dayNumber (d : CalendarDate) : Int :=
  let year := if d.month ≤ 2 then d.year - 1 else d.year
  let yearOfEra := year % 400
  let month := (d.month + 9) % 12
  let dayOfYear := (153 * month + 2) / 5 + d.day - 1
  let dayOfEra := yearOfEra * 365 + yearOfEra / 4 - yearOfEra / 100 + dayOfYear
  year / 400 * daysPerEra + dayOfEra - daysBeforeEpoch

/-- The day with the number. -/
def ofDayNumber (n : Int) : CalendarDate :=
  let shifted := n + daysBeforeEpoch
  let dayOfEra := (shifted % daysPerEra).toNat
  let yearOfEra := (dayOfEra - dayOfEra / 1460 + dayOfEra / 36524 - dayOfEra / 146096) / 365
  let dayOfYear := dayOfEra + yearOfEra / 100 - (365 * yearOfEra + yearOfEra / 4)
  let month := (5 * dayOfYear + 2) / 153
  let year := shifted / daysPerEra * 400 + yearOfEra
  { year := if month ≥ 10 then year + 1 else year
    month := (month + 2) % 12 + 1
    day := dayOfYear + 1 - (153 * month + 2) / 5 }

end CalendarDate

namespace Timestamp

/-- The seconds of a day. -/
def secondsPerDay : Nat := 86400

/-- The nanoseconds of a second. -/
def nanosPerSecond : Nat := 1000000000

/-! ## Writing -/

/-- A number with zeros in front, up to the width. -/
def padded (width n : Nat) : String :=
  let digits := toString n
  String.ofList (.replicate (width - digits.length) '0') ++ digits

/-- A year: four digits, and a sign if that is not enough. -/
def yearText (year : Int) : String :=
  (if year < 0 then "-" else if year > 9999 then "+" else "") ++ padded 4 year.natAbs

/-- The part of a second, in as many groups of three digits as it needs. -/
def fractionText (nanos : Nat) : String :=
  if nanos = 0 then ""
  else if nanos % 1000000 = 0 then "." ++ padded 3 (nanos / 1000000)
  else if nanos % 1000 = 0 then "." ++ padded 6 (nanos / 1000)
  else "." ++ padded 9 nanos

/-- The timestamp in universal time. -/
def text (t : Timestamp) : String :=
  let date := CalendarDate.ofDayNumber (t.seconds / secondsPerDay)
  let second := (t.seconds % secondsPerDay).toNat
  yearText date.year ++ "-" ++ padded 2 date.month ++ "-" ++ padded 2 date.day ++ "T" ++
    padded 2 (second / 3600) ++ ":" ++ padded 2 (second / 60 % 60) ++ ":" ++
    padded 2 (second % 60 + t.nanoseconds / nanosPerSecond) ++
    fractionText (t.nanoseconds % nanosPerSecond) ++ "Z"

/-! ## Reading -/

/-- Reads the digits in front, at least one. -/
def readDigits? (cs : List Char) : Option (Nat × List Char) :=
  let digits := cs.takeWhile Char.isDigit
  if digits.isEmpty then none else some (Text.digitsValue 10 digits, cs.drop digits.length)

/-- Reads a number of at most so many digits, with blanks in front. -/
def readNumber? (maxDigits : Nat) (cs : List Char) : Option (Nat × List Char) :=
  let rest := Text.skipBlanks cs
  (readDigits? (rest.take maxDigits)).map fun (n, unread) => (n, unread ++ rest.drop maxDigits)

/-- Reads a year; one with a sign may have any number of digits. -/
def readYear? (cs : List Char) : Option (Int × List Char) :=
  match Text.skipBlanks cs with
  | '-' :: rest => (readDigits? rest).map fun (n, rest) => (-Int.ofNat n, rest)
  | '+' :: rest => (readDigits? rest).map fun (n, rest) => (Int.ofNat n, rest)
  | rest => (readNumber? 4 rest).map fun (n, rest) => (Int.ofNat n, rest)

/-- Skips a mark with blanks in front. -/
def skipMark? (mark : Char) (cs : List Char) : Option (List Char) :=
  match Text.skipBlanks cs with
  | c :: rest => if c = mark then some rest else none
  | [] => none

/-- Reads a day that exists. -/
def readDate? (cs : List Char) : Option (CalendarDate × List Char) := do
  let (year, cs) ← readYear? cs
  let (month, cs) ← readNumber? 2 (← skipMark? '-' cs)
  let (day, cs) ← readNumber? 2 (← skipMark? '-' cs)
  let date : CalendarDate := { year, month, day }
  if date.isValid then some (date, cs) else none

/-- Skips what stands between a date and a time. -/
def skipSeparator? : List Char → Option (List Char)
  | 'T' :: rest | 't' :: rest | ' ' :: rest => some rest
  | _ => none

/-- Reads a part of a second in nanoseconds; digits beyond the ninth are skipped. -/
def readFraction? : List Char → Option (Nat × List Char)
  | '.' :: rest =>
    let digits := rest.takeWhile Char.isDigit
    if digits.isEmpty then none
    else
      let kept := digits.take 9
      some (Text.digitsValue 10 kept * Nat.pow 10 (9 - kept.length), rest.drop digits.length)
  | cs => some (0, cs)

/-- Reads a time of day, in seconds and nanoseconds. The sixtieth second is a leap second. -/
def readTime? (cs : List Char) : Option (Nat × Nat × List Char) := do
  let (hour, cs) ← readNumber? 2 cs
  let (minute, cs) ← readNumber? 2 (← skipMark? ':' cs)
  let (second, cs) ← readNumber? 2 (← skipMark? ':' cs)
  let (nanos, cs) ← readFraction? cs
  if hour < 24 && minute < 60 && second ≤ 60 then
    let leap := second / 60
    some (hour * 3600 + minute * 60 + second - leap, nanos + leap * nanosPerSecond, cs)
  else none

/-- Reads two digits. -/
def readTwoDigits? : List Char → Option (Nat × List Char)
  | a :: b :: rest =>
    if a.isDigit && b.isDigit then some (Text.digitsValue 10 [a, b], rest) else none
  | _ => none

/-- Reads hours and minutes, in seconds. Colons and blanks may stand between them. -/
def readOffsetSize? (cs : List Char) : Option (Nat × List Char) := do
  let (hours, cs) ← readTwoDigits? cs
  let (minutes, cs) ← readTwoDigits? (cs.dropWhile fun c => c = ':' || Text.isBlank c)
  let seconds := hours * 3600 + minutes * 60
  if minutes < 60 && seconds < secondsPerDay then some (seconds, cs) else none

/-- Reads the offset from universal time, in seconds. -/
def readOffset? : List Char → Option (Int × List Char)
  | 'Z' :: rest | 'z' :: rest => some (0, rest)
  | '+' :: rest => (readOffsetSize? rest).map fun (n, rest) => (Int.ofNat n, rest)
  | '-' :: rest | '−' :: rest => (readOffsetSize? rest).map fun (n, rest) => (-Int.ofNat n, rest)
  | a :: b :: c :: rest =>
    if [a, b, c].map Char.toLower = ['u', 't', 'c'] then some (0, rest) else none
  | _ => none

/-- Reads a timestamp. -/
def read? (s : String) : Option Timestamp := do
  let (date, cs) ← readDate? s.toList
  let (second, nanoseconds, cs) ← readTime? (← skipSeparator? cs)
  let (offset, cs) ← readOffset? (Text.skipBlanks cs)
  let seconds := date.dayNumber * secondsPerDay + second - offset
  let date := CalendarDate.ofDayNumber (seconds / secondsPerDay)
  if (Text.skipBlanks cs).isEmpty && date.isValid then some { seconds, nanoseconds } else none

end Timestamp

end GatewayPolicy
