import ToyLang.Numeral

/-!
# Dates

The days of the calendar, and how points in time are written.

## Main definitions

* `daysOfDate`, `Moment.ofNanoseconds` — between dates and counts of days.
* `Moment` — a point in time, by its parts.
* `Moment.text` — a point in time in a format.
-/

namespace ToyLang.Format

/-- A point in time. -/
structure Moment where
  seconds : Int
  nanoseconds : Nat
  year : Int
  month : Nat
  day : Nat
  hour : Nat
  minute : Nat
  second : Nat
  /-- The day of the week, from Sunday on. -/
  weekday : Nat
  /-- The day of the year, from one on. -/
  yearDay : Nat

/-- The seconds of a day. -/
def daySeconds : Nat := 86400

/-- The nanoseconds of a second. -/
def nanosecondsPerSecond : Nat := tenTo 9

/-- Whether a year has a day more than others. -/
def isLeapYear (year : Int) : Bool := year % 4 = 0 && (year % 100 ≠ 0 || year % 400 = 0)

/-- The days before a month of a year. -/
def daysBefore (year : Int) (month : Nat) : Nat :=
  let days := [0, 31, 59, 90, 120, 151, 181, 212, 243, 273, 304, 334].getD (month - 1) 0
  if 2 < month ∧ isLeapYear year then days + 1 else days

/-- The days of a month of a year. -/
def daysOfMonth (year : Int) (month : Nat) : Nat :=
  if month = 12 then 31 else daysBefore year (month + 1) - daysBefore year month

/-- The days from the start of 1970 to a date. -/
def daysOfDate (year : Int) (month day : Nat) : Int :=
  let earlier := year - 1
  365 * earlier + earlier / 4 - earlier / 100 + earlier / 400 - 719162
    + daysBefore year month + day - 1

/-- The point in time some nanoseconds after the start of 1970. -/
def Moment.ofNanoseconds (nanoseconds : Int) : Moment :=
  let seconds := nanoseconds / nanosecondsPerSecond
  let days := seconds / daySeconds
  let rest := (seconds % daySeconds).toNat
  -- Years are counted from March on, so that a day more comes last.
  let shifted := days + 719468
  let era := shifted / 146097
  let dayOfEra := (shifted % 146097).toNat
  let yearOfEra := (dayOfEra - dayOfEra / 1460 + dayOfEra / 36524 - dayOfEra / 146096) / 365
  let dayOfYear := dayOfEra - (365 * yearOfEra + yearOfEra / 4 - yearOfEra / 100)
  let m := (5 * dayOfYear + 2) / 153
  let month := if m < 10 then m + 3 else m - 9
  let day := dayOfYear - (153 * m + 2) / 5 + 1
  let year := (yearOfEra : Int) + era * 400 + if month ≤ 2 then 1 else 0
  { seconds := seconds
    nanoseconds := (nanoseconds % nanosecondsPerSecond).toNat
    year := year
    month := month
    day := day
    hour := rest / 3600
    minute := rest / 60 % 60
    second := rest % 60
    weekday := ((days + 4) % 7).toNat
    yearDay := daysBefore year month + day }

/-- The point in time some seconds after the start of 1970. -/
def Moment.ofSeconds (seconds : Int) : Moment := .ofNanoseconds (nanosecondsPerSecond * seconds)

/-- The names of the days of the week. -/
def dayNames : List String :=
  ["Sunday", "Monday", "Tuesday", "Wednesday", "Thursday", "Friday", "Saturday"]

/-- The names of the months. -/
def monthNames : List String :=
  ["January", "February", "March", "April", "May", "June", "July", "August", "September",
    "October", "November", "December"]

/-- What a letter in a format stands for. -/
inductive DatePart where
  | text (t : String)
  /-- A number, and what fills it up to a width. -/
  | number (filler : Char) (width : Nat) (n : Int)
  /-- The first digits of a fraction of nine digits. -/
  | fraction (n : Nat)
  /-- What is made of other parts. -/
  | made (format : String)

/-- What stands between the percent sign and the letter. -/
structure DateFlags where
  /-- What numbers are filled up with; nothing at all if it is a minus. -/
  filler : Option Char := none
  upper : Bool := false
  swapped : Bool := false
  width : Option Nat := none

/-- Fill a text up to a width from the left. -/
def filledUp (filler : Char) (width : Nat) (cs : List Char) : List Char :=
  List.replicate (width - cs.length) filler ++ cs

namespace Moment

/-- The hour on the face of a clock. -/
def faceHour (t : Moment) : Nat := if t.hour % 12 = 0 then 12 else t.hour % 12

/-- The year of the week, and the week in it.  Weeks start on Monday and belong to the year that
has most of their days. -/
def weekOfYear (t : Moment) : Int × Nat :=
  let sinceMonday := (t.weekday + 6) % 7
  -- The Thursday of a week lies in the year that the week belongs to.
  let thursday : Int := (t.yearDay : Int) - 1 - sinceMonday + 3
  let length (year : Int) : Nat := if isLeapYear year then 366 else 365
  if thursday < 0 then (t.year - 1, ((thursday + length (t.year - 1)) / 7).toNat + 1)
  else if (length t.year : Int) ≤ thursday then
    (t.year + 1, ((thursday - length t.year) / 7).toNat + 1)
  else (t.year, (thursday / 7).toNat + 1)

/-- What a letter stands for. -/
def part? (t : Moment) (c : Char) : Option DatePart :=
  let short (name : String) : DatePart := .text (String.ofList (name.toList.take 3))
  match c with
  | '%' => some (.text "%")
  | 'n' => some (.text "\n")
  | 't' => some (.text "\t")
  | 'Y' => some (.number '0' 4 t.year)
  | 'y' => some (.number '0' 2 (t.year % 100))
  | 'C' => some (.number '0' 2 (t.year / 100))
  | 'G' => some (.number '0' 4 t.weekOfYear.1)
  | 'g' => some (.number '0' 2 (t.weekOfYear.1 % 100))
  | 'V' => some (.number '0' 2 t.weekOfYear.2)
  | 'm' => some (.number '0' 2 t.month)
  | 'd' => some (.number '0' 2 t.day)
  | 'e' => some (.number ' ' 2 t.day)
  | 'H' => some (.number '0' 2 t.hour)
  | 'I' => some (.number '0' 2 t.faceHour)
  | 'k' => some (.number ' ' 2 t.hour)
  | 'l' => some (.number ' ' 2 t.faceHour)
  | 'M' => some (.number '0' 2 t.minute)
  | 'S' => some (.number '0' 2 t.second)
  | 'N' => some (.fraction t.nanoseconds)
  | 's' => some (.number '0' 1 t.seconds)
  | 'j' => some (.number '0' 3 t.yearDay)
  | 'p' => some (.text (if t.hour < 12 then "AM" else "PM"))
  | 'P' => some (.text (if t.hour < 12 then "am" else "pm"))
  | 'a' => some (short (dayNames.getD t.weekday ""))
  | 'A' => some (.text (dayNames.getD t.weekday ""))
  | 'b' | 'h' => some (short (monthNames.getD (t.month - 1) ""))
  | 'B' => some (.text (monthNames.getD (t.month - 1) ""))
  | 'u' => some (.number '0' 1 (if t.weekday = 0 then 7 else t.weekday))
  | 'w' => some (.number '0' 1 t.weekday)
  | 'q' => some (.number '0' 1 ((t.month + 2) / 3))
  | 'z' => some (.text "+0000")
  | 'Z' => some (.text "UTC")
  | 'U' => some (.number '0' 2 ((t.yearDay + 6 - t.weekday) / 7))
  | 'W' => some (.number '0' 2 ((t.yearDay + 6 - (t.weekday + 6) % 7) / 7))
  | 'F' => some (.made "%Y-%m-%d")
  | 'D' | 'x' => some (.made "%m/%d/%y")
  | 'T' | 'X' => some (.made "%H:%M:%S")
  | 'R' => some (.made "%H:%M")
  | 'r' => some (.made "%I:%M:%S %p")
  | 'c' => some (.made "%a %b %e %H:%M:%S %Y")
  | _ => none

/-- The flags at the start of a directive, and what follows them. -/
def takeFlags : List Char → DateFlags → DateFlags × List Char
  | '-' :: cs, f => takeFlags cs { f with filler := some '-' }
  | '_' :: cs, f => takeFlags cs { f with filler := some ' ' }
  | '0' :: cs, f => takeFlags cs { f with filler := some '0' }
  | '+' :: cs, f => takeFlags cs { f with filler := some '0' }
  | '^' :: cs, f => takeFlags cs { f with upper := true }
  | '#' :: cs, f => takeFlags cs { f with swapped := true }
  | cs, f =>
      let digits := cs.takeWhile Char.isDigit
      let width := if digits.isEmpty then none else some (Nat.ofDigitChars 10 digits 0)
      ({ f with width := width }, cs.drop digits.length)

/-- Letters as the flags want them: the swapped names of halves of the day and of zones are
small, and those of days and months are large. -/
def withCase (f : DateFlags) (letter : Char) (cs : List Char) : List Char :=
  if f.swapped ∧ ['p', 'Z'].contains letter then cs.map Char.toLower
  else if (f.upper ∨ (f.swapped ∧ ['a', 'A', 'b', 'B', 'h'].contains letter)) ∧ letter ≠ 'P' then
    cs.map Char.toUpper
  else cs

/-- The text of a number. -/
def numberText (f : DateFlags) (filler : Char) (width : Nat) (n : Int) : List Char :=
  let digits := (toString n.natAbs).toList
  let sign := if n < 0 then ['-'] else []
  match f.filler.getD filler with
  | '-' => sign ++ digits
  | filler =>
      let width := max width (f.width.getD 0) - sign.length
      if filler = ' ' then filledUp ' ' (width + sign.length) (sign ++ digits)
      else sign ++ filledUp '0' width digits

/-- The colons at the start of a directive for a zone, and the zone. -/
def zoneText? : List Char → Option (String × List Char)
  | ':' :: 'z' :: cs => some ("+00:00", cs)
  | ':' :: ':' :: 'z' :: cs => some ("+00:00:00", cs)
  | ':' :: ':' :: ':' :: 'z' :: cs => some ("+00", cs)
  | _ => none

/-- A point in time in a format; each step takes a directive or a character, and a part may be made
of others that are not. -/
def textWithin (t : Moment) : (steps : Nat) → List Char → List Char
  | 0, _ | _, [] => []
  | steps + 1, '%' :: cs =>
      let (f, rest) := takeFlags cs {}
      let textFiller := if f.filler = some '0' then '0' else ' '
      let fill (text : List Char) : List Char :=
        if f.filler = some '-' then text else filledUp textFiller (f.width.getD 0) text
      match zoneText? rest with
      | some (zone, rest) => fill zone.toList ++ textWithin t steps rest
      | none =>
          let plain := match rest with
            | 'E' :: c :: more | 'O' :: c :: more => if (t.part? c).isSome then c :: more else rest
            | rest => rest
          match plain with
          | [] => fill ('%' :: cs)
          | c :: more =>
              match t.part? c with
              | none =>
                  let written := '%' :: (cs.take (cs.length - more.length))
                  fill written ++ textWithin t steps more
              | some (.text text) =>
                  fill (withCase f c text.toList) ++ textWithin t steps more
              | some (.number filler width n) =>
                  numberText f filler width n ++ textWithin t steps more
              | some (.fraction n) =>
                  let digits := filledUp '0' 9 (toString n).toList
                  let width := f.width.getD 9
                  digits.take width ++ List.replicate (width - 9) '0' ++ textWithin t steps more
              | some (.made format) =>
                  let inner := textWithin t steps format.toList
                  fill (if f.upper then inner.map Char.toUpper else inner)
                    ++ textWithin t steps more
  | steps + 1, c :: cs => c :: textWithin t steps cs

/-- A point in time in a format. -/
def text (t : Moment) (format : String) : String :=
  String.ofList (t.textWithin (format.length + 40) format.toList)

end Moment

end ToyLang.Format
