import IncomeTax.Text.Blank
import IncomeTax.Text.Numeral

/-!
# Calendar dates

Dates of the Gregorian calendar, extended to all years from `-262143` to `262142`, year zero
included. Dates are ordered by year, month and day; the day number counts days from the first of
January of year one.

A date is written `YYYY-MM-DD`. Years outside `0` to `9999` carry a sign and at least four digits.
When a date is read, the parts may be surrounded by blanks and may have fewer digits; a year may
have more than four digits only with a sign.

## Main definitions

* `Date` — a day that exists
* `Date.of?` — the day of a year, month and day
* `Date.dayNumber` — the position of the day on the calendar
* `Date.toText`, `Date.ofText?` — the written form
-/

namespace IncomeTax

/-- Whether the year has a 29th of February. -/
def isLeapYear (year : Int) : Bool := year % 4 == 0 && (year % 100 != 0 || year % 400 == 0)

/-- The number of days of a month, zero when there is no such month. -/
def daysInMonth (year : Int) : Nat → Nat
  | 1 | 3 | 5 | 7 | 8 | 10 | 12 => 31
  | 4 | 6 | 9 | 11 => 30
  | 2 => if isLeapYear year then 29 else 28
  | _ => 0

/-- A day of the Gregorian calendar. -/
structure Date where
  year : Int
  month : Nat
  day : Nat
  year_mem : -262143 ≤ year ∧ year ≤ 262142
  day_mem : 1 ≤ day ∧ day ≤ daysInMonth year month
  deriving DecidableEq

namespace Date

/-- The day with the given year, month and day of the month, if there is one. -/
def of? (year : Int) (month day : Nat) : Option Date :=
  if exists_ : (-262143 ≤ year ∧ year ≤ 262142) ∧ 1 ≤ day ∧ day ≤ daysInMonth year month then
    some ⟨year, month, day, exists_.1, exists_.2⟩
  else none

/-- The first day comes strictly before the second. -/
def before (a b : Date) : Bool :=
  a.year < b.year || (a.year == b.year && (a.month < b.month ||
    (a.month == b.month && a.day < b.day)))

/-- Dates are ordered by year, then month, then day. -/
instance : LT Date := ⟨fun a b => a.before b = true⟩

instance : LE Date := ⟨fun a b => b.before a = false⟩

instance (a b : Date) : Decidable (a < b) := inferInstanceAs (Decidable (a.before b = true))

instance (a b : Date) : Decidable (a ≤ b) := inferInstanceAs (Decidable (b.before a = false))

/-- The number of days of a year that come before a month. -/
def daysBeforeMonth (year : Int) : Nat → Nat
  | 0 => 0
  | month + 1 => daysBeforeMonth year month + daysInMonth year month

/-- The number of days from the first of January of year one to the first of January of a year. -/
def daysBeforeYear (year : Int) : Int :=
  365 * (year - 1) + (year - 1) / 4 - (year - 1) / 100 + (year - 1) / 400

/-- The position of the day on the calendar; the first of January of year one has number one. -/
def dayNumber (d : Date) : Int :=
  daysBeforeYear d.year + (daysBeforeMonth d.year d.month : Int) + (d.day : Int)

/-- The year as written: four digits from `0` to `9999`, else a sign and at least four digits. -/
def yearChars (year : Int) : List Char :=
  if 0 ≤ year ∧ year ≤ 9999 then Text.padded 4 year.toNat
  else (if year < 0 then '-' else '+') :: Text.atLeast 4 year.natAbs

/-- The written form of the date. -/
def toText (d : Date) : String :=
  String.ofList (yearChars d.year ++ '-' :: Text.padded 2 d.month ++ '-' :: Text.padded 2 d.day)

/-- Reads one digit, and more up to the given number if they follow. -/
def readDigits (atMost : Nat) (cs : List Char) : Option (Nat × List Char) :=
  let digits := (cs.take atMost).takeWhile Text.isDigit
  (Text.natural? digits).map fun n => (n, cs.drop digits.length)

/-- Reads a year, with blanks before it. -/
def readYear (cs : List Char) : Option (Int × List Char) :=
  match cs.dropWhile Text.isBlank with
  | '-' :: rest => (readDigits rest.length rest).map fun (n, rest) => (-(n : Int), rest)
  | '+' :: rest => (readDigits rest.length rest).map fun (n, rest) => ((n : Int), rest)
  -- Without a sign, what follows the fourth digit must be the next part already.
  | rest => (readDigits 4 rest).map fun (n, rest) => ((n : Int), rest)

/-- Reads a hyphen and a month or day, with blanks before each. -/
def readPart (cs : List Char) : Option (Nat × List Char) :=
  match cs.dropWhile Text.isBlank with
  | '-' :: rest => readDigits 2 (rest.dropWhile Text.isBlank)
  | _ => none

/-- Reads a date that makes up the whole text, blanks apart. -/
def ofChars? (cs : List Char) : Option Date := do
  let (year, rest) ← readYear cs
  let (month, rest) ← readPart rest
  let (day, rest) ← readPart rest
  if rest.all Text.isBlank then of? year month day else none

/-- The date a text stands for, if any. -/
def ofText? (s : String) : Option Date := ofChars? s.toList

/-- The whole years that have passed on a day since an earlier one; zero if it is not earlier. -/
def wholeYearsUntil (birth date : Date) : Nat :=
  if date < birth then 0
  else
    let years := date.year - birth.year
    let anniversaryAhead :=
      date.month < birth.month || (date.month == birth.month && date.day < birth.day)
    (if anniversaryAhead then years - 1 else years).toNat

example : (ofText? " 2024-2-29 ").map toText = some "2024-02-29" := by decide +kernel

example : (ofText? "-1-12-31").map toText = some "-0001-12-31" := by decide +kernel

example : ofText? "2023-02-29" = none := by decide +kernel

end Date

end IncomeTax
