/-
ExportControl.Instant — points in time, written as RFC 3339 in UTC.

An instant is a day of the Gregorian calendar, a second of that day and
nanoseconds. A leap second is the last second of its minute with a thousand
million nanoseconds more.

* `Instant.render` writes an instant: seconds and, where they are needed, three,
  six or nine digits of a fraction.
* `Instant.parse?` reads a date and a time with any offset. Blanks may stand
  before each part, a blank may stand for the `T`, and a number may have fewer
  digits than its width.
-/
import ExportControl.Text.Blank
import ExportControl.Text.Digit

namespace ExportControl

open Text (trimStart digit?)

/-- A point in time, in UTC. -/
structure Instant where
  year : Int
  month : Nat
  day : Nat
  /-- The second of the day. -/
  second : Nat
  /-- The nanoseconds of the second; a thousand million more in a leap second. -/
  nano : Nat
  deriving DecidableEq, Repr

/-! ## The calendar -/

/-- Whether a year has 366 days. -/
def isLeapYear (year : Int) : Bool := year % 4 == 0 && (year % 100 != 0 || year % 400 == 0)

/-- The days of a month. -/
def daysInMonth (year : Int) (month : Nat) : Nat :=
  if month = 2 then if isLeapYear year then 29 else 28
  else if month = 4 ∨ month = 6 ∨ month = 9 ∨ month = 11 then 30
  else 31

/-- The first and the last year of the calendar. -/
def firstYear : Int := -262143

@[inherit_doc firstYear]
def lastYear : Int := 262142

/-- Whether a date is in the calendar. -/
def isDate (year : Int) (month day : Nat) : Bool :=
  firstYear ≤ year && year ≤ lastYear && 1 ≤ month && month ≤ 12 && 1 ≤ day &&
    day ≤ daysInMonth year month

/-- The day before a date. -/
def dayBefore (year : Int) (month day : Nat) : Int × Nat × Nat :=
  if 1 < day then (year, month, day - 1)
  else if 1 < month then (year, month - 1, daysInMonth year (month - 1))
  else (year - 1, 12, 31)

/-- The day after a date. -/
def dayAfter (year : Int) (month day : Nat) : Int × Nat × Nat :=
  if day < daysInMonth year month then (year, month, day + 1)
  else if month < 12 then (year, month + 1, 1)
  else (year + 1, 1, 1)

/-- The seconds of a day. -/
def secondsPerDay : Nat := 86400

/-! ## Writing -/

namespace Instant

/-- A year: four digits, with a sign where four do not suffice. -/
def yearText (year : Int) : String :=
  if 0 ≤ year ∧ year ≤ 9999 then Text.paddedDecimal 4 year.toNat
  else (if year < 0 then "-" else "+") ++ Text.paddedDecimal 4 year.natAbs

/-- A fraction of a second, in as many digits as it needs. -/
def fractionText (nano : Nat) : String :=
  if nano = 0 then ""
  else if nano % 1000000 = 0 then "." ++ Text.paddedDecimal 3 (nano / 1000000)
  else if nano % 1000 = 0 then "." ++ Text.paddedDecimal 6 (nano / 1000)
  else "." ++ Text.paddedDecimal 9 nano

/-- The instant in UTC. -/
def render (t : Instant) : String :=
  let leap := 1000000000 ≤ t.nano
  let second := t.second % 60 + (if leap then 1 else 0)
  let nano := if leap then t.nano - 1000000000 else t.nano
  yearText t.year ++ "-" ++ Text.paddedDecimal 2 t.month ++ "-" ++ Text.paddedDecimal 2 t.day
    ++ "T" ++ Text.paddedDecimal 2 (t.second / 3600)
    ++ ":" ++ Text.paddedDecimal 2 (t.second / 60 % 60)
    ++ ":" ++ Text.paddedDecimal 2 second ++ fractionText nano ++ "Z"

/-! ## Reading -/

/-- A number of one digit up to `width` digits, after blanks. -/
def number? (width : Nat) (cs : List Char) : Option (Nat × List Char) :=
  let cs := trimStart cs
  let digits := (cs.take width).takeWhile fun c => (digit? c).isSome
  (Text.natOfDigits? digits).map fun n => (n, cs.drop digits.length)

/-- The year: up to four digits, or a sign and any number of them. -/
def year? (cs : List Char) : Option (Int × List Char) :=
  match trimStart cs with
  | '-' :: rest => do
    let digits := rest.takeWhile fun c => (digit? c).isSome
    return (-(← Text.natOfDigits? digits : Nat), rest.drop digits.length)
  | '+' :: rest => do
    let digits := rest.takeWhile fun c => (digit? c).isSome
    return ((← Text.natOfDigits? digits : Nat), rest.drop digits.length)
  | rest => (number? 4 rest).map fun (n, rest) => (n, rest)

/-- A given character, after blanks. -/
def mark? (c : Char) (cs : List Char) : Option (List Char) :=
  match trimStart cs with
  | d :: rest => if d = c then some rest else none
  | [] => none

/-- The nanoseconds of a fraction that may follow; digits past the ninth do not count. -/
def fraction? : List Char → Option (Nat × List Char)
  | '.' :: rest => do
    let digits := rest.takeWhile fun c => (digit? c).isSome
    let counted := digits.take 9
    let n ← Text.natOfDigits? counted
    return (n * Nat.pow 10 (9 - counted.length), rest.drop digits.length)
  | cs => some (0, cs)

/-- Two ASCII digits. -/
def twoDigits? : List Char → Option (Nat × List Char)
  | a :: b :: rest => do return ((← digit? a) * 10 + (← digit? b), rest)
  | _ => none

/-- A distance from UTC in seconds: hours and minutes, with colons or blanks between. -/
def distance? (cs : List Char) : Option (Nat × List Char) := do
  let (hours, cs) ← twoDigits? cs
  let (minutes, cs) ← twoDigits? (cs.dropWhile fun c => c == ':' || Text.isBlank c)
  if minutes < 60 then return (hours * 3600 + minutes * 60, cs) else none

/-- The offset from UTC in seconds, after blanks. -/
def offset? (cs : List Char) : Option (Int × List Char) :=
  match trimStart cs with
  | 'Z' :: rest | 'z' :: rest => some (0, rest)
  | '+' :: rest => (distance? rest).map fun (n, rest) => (n, rest)
  | '-' :: rest | '−' :: rest => (distance? rest).map fun (n, rest) => (-n, rest)
  | u :: t :: c :: rest =>
    if u.toUpper = 'U' ∧ t.toUpper = 'T' ∧ c.toUpper = 'C' then some (0, rest) else none
  | _ => none

/-- The instant of a local date and time at an offset from UTC. -/
def ofLocal? (year : Int) (month day second nano : Nat) (offset : Int) : Option Instant :=
  let utc : Int := second - offset
  let ((year, month, day), second) : (Int × Nat × Nat) × Int :=
    if utc < 0 then (dayBefore year month day, utc + secondsPerDay)
    else if secondsPerDay ≤ utc then (dayAfter year month day, utc - secondsPerDay)
    else ((year, month, day), utc)
  if isDate year month day then some { year, month, day, second := second.toNat, nano } else none

/-- Reads an instant. -/
def parseChars? (cs : List Char) : Option Instant := do
  let (year, cs) ← year? cs
  let (month, cs) ← number? 2 (← mark? '-' cs)
  let (day, cs) ← number? 2 (← mark? '-' cs)
  let cs ← match cs with
    | 'T' :: rest | 't' :: rest | ' ' :: rest => some rest
    | _ => none
  let (hour, cs) ← number? 2 cs
  let (minute, cs) ← number? 2 (← mark? ':' cs)
  let (second, cs) ← number? 2 (← mark? ':' cs)
  let (nano, cs) ← fraction? cs
  let (offset, cs) ← offset? cs
  if !(trimStart cs).isEmpty then none
  if !isDate year month day || 24 ≤ hour || 60 ≤ minute || 61 ≤ second then none
  if secondsPerDay ≤ offset.natAbs then none
  let leap := second = 60
  ofLocal? year month day (hour * 3600 + minute * 60 + (if leap then 59 else second))
    (if leap then nano + 1000000000 else nano) offset

@[inherit_doc parseChars?]
def parse? (s : String) : Option Instant := parseChars? s.toList

end Instant

end ExportControl
