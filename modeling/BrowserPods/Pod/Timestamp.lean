import BrowserPods.Text.Blank
import BrowserPods.Text.Numeral

/-!
Points in time as the cluster writes them: a date and a time of day with an offset.  Their normal
form is in whole seconds without an offset, such as `2024-01-31T09:05:00Z`; blanks between the parts
and digits that are left out are understood.
-/

namespace BrowserPods

open BrowserPods.Text

/-- A point in time, in days since the first of March of the year 0 and within the day. -/
structure Timestamp where
  day : Int
  minute : Nat
  /-- The second within the minute; a leap second is the 60th. -/
  second : Nat
deriving DecidableEq, Repr

namespace Timestamp

/-! ## The calendar -/

def isLeap (year : Int) : Bool := year % 4 == 0 && (year % 100 != 0 || year % 400 == 0)

def daysInMonth (year : Int) (month : Nat) : Nat :=
  if month = 2 then if isLeap year then 29 else 28
  else if [4, 6, 9, 11].contains month then 30
  else 31

/-- The days from the first of March to the first of the month that is so many months later. -/
def daysBefore (months : Nat) : Nat := (153 * months + 2) / 5

/-- The day of a date.  The year is taken to begin in March, so that a leap day ends it. -/
def dayOfDate (year : Int) (month day : Nat) : Int :=
  let months := (month + 9) % 12
  let start := if month ≤ 2 then year - 1 else year
  start * 365 + start / 4 - start / 100 + start / 400 + daysBefore months + (day - 1 : Int)

/-- The year that a day is in, with the number of the day in it, counted from March. -/
def yearOfDay (day : Int) : Int × Nat :=
  let cycle := day / 146097
  let inCycle := (day % 146097).toNat
  let year := (inCycle - inCycle / 1460 + inCycle / 36524 - inCycle / 146096) / 365
  (cycle * 400 + year, inCycle - (365 * year + year / 4 - year / 100))

def dateOfDay (day : Int) : Int × Nat × Nat :=
  let (start, inYear) := yearOfDay day
  let months := (5 * inYear + 2) / 153
  let month := (months + 2) % 12 + 1
  (if month ≤ 2 then start + 1 else start, month, inYear - daysBefore months + 1)

/-! ## Reading -/

/-- Reads a number of one digit up to `width` digits, with blanks in front. -/
def readNumber? (width : Nat) (cs : List Char) : Option (Nat × List Char) :=
  let body := trimStart cs
  let digits := (body.take width).takeWhile fun c => '0' ≤ c && c ≤ '9'
  (Numeral.ofDigits? 10 digits).map fun n => (n, body.drop digits.length)

/-- Reads a year: up to four digits, or a sign and any number of digits. -/
def readYear? (cs : List Char) : Option (Int × List Char) :=
  match trimStart cs with
  | '-' :: c :: rest =>
    if isBlank c then none
    else (readNumber? (rest.length + 1) (c :: rest)).map fun (n, after) => (-(n : Int), after)
  | '+' :: c :: rest =>
    if isBlank c then none
    else (readNumber? (rest.length + 1) (c :: rest)).map fun (n, after) => ((n : Int), after)
  | body => (readNumber? 4 body).map fun (n, after) => ((n : Int), after)

/-- Behind a separator with blanks in front. -/
def skip? (separator : Char) (cs : List Char) : Option (List Char) :=
  match trimStart cs with
  | c :: rest => if c = separator then some rest else none
  | [] => none

/-- Behind the fraction of a second, which does not count. -/
def skipFraction? : List Char → Option (List Char)
  | '.' :: rest =>
    let digits := rest.takeWhile fun c => '0' ≤ c && c ≤ '9'
    if digits.isEmpty then none else some (rest.drop digits.length)
  | cs => some cs

def readTwoDigits? : List Char → Option (Nat × List Char)
  | a :: b :: rest => (Numeral.ofDigits? 10 [a, b]).map fun n => (n, rest)
  | _ => none

/-- Reads an offset, in minutes. -/
def readOffset? (cs : List Char) : Option (Int × List Char) :=
  let signed (sign : Int) (rest : List Char) : Option (Int × List Char) := do
    let (hours, rest₁) ← readTwoDigits? rest
    let (minutes, rest₂) ← readTwoDigits? (rest₁.dropWhile fun c => c = ':' || isBlank c)
    if minutes < 60 ∧ hours < 24 then pure (sign * (hours * 60 + minutes : Nat), rest₂) else none
  match cs with
  | 'Z' :: rest => some (0, rest)
  | 'z' :: rest => some (0, rest)
  | '+' :: rest => signed 1 rest
  | '-' :: rest => signed (-1) rest
  | '−' :: rest => signed (-1) rest
  | u :: t :: c :: rest =>
    if [u.toUpper, t.toUpper, c.toUpper] = ['U', 'T', 'C'] then some (0, rest) else none
  | _ => none

/-- The farthest years. -/
def yearLimits : Int × Int := (-262143, 262142)

/-- The point in time of a date, a time of day and an offset, if there are such. -/
def ofParts? (year : Int) (month day hour minute second : Nat) (offset : Int) :
    Option Timestamp :=
  if yearLimits.1 ≤ year ∧ year ≤ yearLimits.2 ∧ 1 ≤ month ∧ month ≤ 12 ∧ 1 ≤ day ∧
      day ≤ daysInMonth year month ∧ hour < 24 ∧ minute < 60 ∧ second ≤ 60 then
    let minutes : Int := hour * 60 + minute - offset
    some
      { day := dayOfDate year month day + minutes / 1440
        minute := (minutes % 1440).toNat
        second }
  else none

def read? (text : String) : Option Timestamp := do
  let (year, cs) ← readYear? text.toList
  let (month, cs) ← readNumber? 2 (← skip? '-' cs)
  let (day, cs) ← readNumber? 2 (← skip? '-' cs)
  let cs ← match cs with
    | c :: rest => if c = 't' ∨ c = 'T' ∨ c = ' ' then some rest else none
    | [] => none
  let (hour, cs) ← readNumber? 2 cs
  let (minute, cs) ← readNumber? 2 (← skip? ':' cs)
  let (second, cs) ← readNumber? 2 (← skip? ':' cs)
  let cs ← skipFraction? cs
  let (offset, cs) ← readOffset? (trimStart cs)
  if (trimStart cs).isEmpty then ofParts? year month day hour minute second offset else none

/-! ## Writing -/

/-- A number with zeros in front up to a width. -/
def padded (width n : Nat) : List Char :=
  let digits := Nat.toDigits 10 n
  List.replicate (width - digits.length) '0' ++ digits

/-- A year: four digits, or a sign and more. -/
def writeYear (year : Int) : List Char :=
  if 0 ≤ year ∧ year ≤ 9999 then padded 4 year.toNat
  else (if year < 0 then '-' else '+') :: padded 4 year.natAbs

/-- The normal form of a point in time. -/
def write (time : Timestamp) : String :=
  let (year, month, day) := dateOfDay time.day
  String.ofList
    (writeYear year ++ '-' :: padded 2 month ++ '-' :: padded 2 day ++ 'T' ::
      padded 2 (time.minute / 60) ++ ':' :: padded 2 (time.minute % 60) ++ ':' ::
      padded 2 time.second ++ ['Z'])

end Timestamp

end BrowserPods
