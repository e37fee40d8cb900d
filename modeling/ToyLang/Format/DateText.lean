import ToyLang.Format.Date
import ToyLang.Numeral

/-!
# Descriptions of points in time

A point in time can be described by a date, a time of the day, a zone, and by how far it lies from
another point: `2020-01-31 10:00 UTC`, `1 Jan 2020`, `yesterday`, `@86400`, `3 days ago`.

## Main definitions

* `DateToken`, `DateToken.tokens` — the words and numbers of a description.
* `Described` — what a description has said so far.
* `readMoment?` — the point in time that a description comes to.
* `stampMoment?` — the point in time that a row of digits comes to.
-/

namespace ToyLang.Format

/-- A part of a description. -/
inductive DateToken where
  /-- Digits, with the sign in front of them. -/
  | number (sign : Option Char) (digits : List Char)
  | word (text : String)
  | mark (c : Char)

namespace DateToken

/-- The parts of a description; each step takes one.  A sign that no digits follow says nothing. -/
def tokensWithin : (steps : Nat) → List Char → List DateToken
  | 0, _ | _, [] => []
  | steps + 1, c :: cs =>
      if c = ' ' ∨ c = '\t' ∨ c = '\n' then tokensWithin steps cs
      else if c = '(' then tokensWithin steps ((cs.dropWhile (· ≠ ')')).drop 1)
      else if c.isDigit then
        .number none (c :: cs.takeWhile Char.isDigit)
          :: tokensWithin steps (cs.dropWhile Char.isDigit)
      else if c = '+' ∨ c = '-' then
        let rest := cs.dropWhile fun c => c = ' ' || c = '\t'
        let digits := rest.takeWhile Char.isDigit
        if digits.isEmpty then tokensWithin steps rest
        else .number (some c) digits :: tokensWithin steps (rest.drop digits.length)
      else if c.isAlpha then
        let rest := cs.takeWhile fun c => c.isAlpha || c = '.'
        let name := (c :: rest).filter (· ≠ '.')
        .word (String.ofList (name.map Char.toLower)) :: tokensWithin steps (cs.drop rest.length)
      else .mark c :: tokensWithin steps cs

/-- The parts of a description. -/
def tokens (text : String) : List DateToken := tokensWithin (text.length + 1) text.toList

end DateToken

/-- What a description has said so far. -/
structure Described where
  /-- The year, unless it is left open, the month and the day. -/
  date : Option (Option Int × Nat × Nat) := none
  /-- The nanoseconds since midnight. -/
  time : Option Nat := none
  /-- The minutes by which a zone is ahead. -/
  zone : Option Int := none
  /-- A day of the week, and which of those to come. -/
  weekday : Option (Nat × Int) := none
  /-- Whether a distance was given. -/
  moved : Bool := false
  months : Int := 0
  days : Int := 0
  seconds : Int := 0

/-- What distances are measured in. -/
inductive DateUnit where
  | months (n : Nat)
  | days (n : Nat)
  | seconds (n : Nat)

/-- The unit that a word names. -/
def unit? (word : String) : Option DateUnit :=
  let base := if word.endsWith "s" then String.ofList word.toList.dropLast else word
  match base with
  | "year" => some (.months 12)
  | "month" => some (.months 1)
  | "fortnight" => some (.days 14)
  | "week" => some (.days 7)
  | "day" => some (.days 1)
  | "hour" => some (.seconds 3600)
  | "minute" | "min" => some (.seconds 60)
  | "second" | "sec" => some (.seconds 1)
  | _ => none

/-- The number that a word stands for in front of a unit. -/
def ordinal? (word : String) : Option Int :=
  if word = "last" then some (-1)
  else if word = "this" then some 0
  else if word = "next" then some 1
  else
    [("first", 1), ("third", 3), ("fourth", 4), ("fifth", 5), ("sixth", 6), ("seventh", 7),
      ("eighth", 8), ("ninth", 9), ("tenth", 10), ("eleventh", 11), ("twelfth", 12)].lookup word

/-- The place of a name among some, which may be cut to three letters. -/
def namePlace? (names : List String) (word : String) : Option Nat :=
  names.findIdx? fun name => name.toLower = word
    || String.ofList (name.toLower.toList.take 3) = word

/-- The number of a month. -/
def month? (word : String) : Option Nat :=
  if word = "sept" then some 9 else (namePlace? monthNames word).map (· + 1)

/-- The number of a day of the week. -/
def weekday? (word : String) : Option Nat :=
  match word with
  | "tues" => some 2
  | "wednes" => some 3
  | "thur" | "thurs" => some 4
  | word => namePlace? dayNames word

/-- The minutes by which named zones are ahead. -/
def zones : List (String × Int) :=
  [("gmt", 0), ("ut", 0), ("utc", 0), ("wet", 0), ("west", 60), ("bst", 60), ("art", -180),
    ("brt", -180), ("brst", -120), ("nst", -210), ("ndt", -150), ("ast", -240), ("adt", -180),
    ("clt", -240), ("clst", -180), ("est", -300), ("edt", -240), ("cst", -360), ("cdt", -300),
    ("mst", -420), ("mdt", -360), ("pst", -480), ("pdt", -420), ("akst", -540), ("akdt", -480),
    ("hst", -600), ("hast", -600), ("hadt", -540), ("sst", -720), ("wat", 60), ("cet", 60),
    ("cest", 120), ("met", 60), ("mez", 60), ("mest", 120), ("mesz", 120), ("eet", 120),
    ("eest", 180), ("cat", 120), ("sast", 120), ("eat", 180), ("msk", 180), ("msd", 240),
    ("ist", 330), ("sgt", 480), ("kst", 540), ("jst", 540), ("gst", 600), ("nzst", 720),
    ("nzdt", 780)]

/-- The minutes by which a named zone is ahead.  The letters from a to m without the j stand for the
hours to the east, those from n to y for the hours to the west, and j for the zone at hand. -/
def zone? (word : String) : Option Int :=
  zones.lookup word <|> match word.toList with
    | [c] =>
        if 'a' ≤ c ∧ c ≤ 'i' then some (60 * (c.toNat - 96))
        else if 'k' ≤ c ∧ c ≤ 'm' then some (60 * (c.toNat - 97))
        else if 'n' ≤ c ∧ c ≤ 'y' then some (-60 * (c.toNat - 109))
        else if c = 'j' ∨ c = 'z' then some 0
        else none
    | _ => none

/-- The year that digits are: two of them leave out the century. -/
def yearOf (digits : List Char) : Int :=
  let n : Int := digitsValue digits
  if digits.length ≤ 2 then (if n < 69 then n + 2000 else n + 1900) else n

namespace Described

/-- Say the date. -/
def withDate? (d : Described) (year : Option Int) (month day : Nat) : Option Described :=
  if d.date.isSome then none else some { d with date := some (year, month, day) }

/-- Say the time of the day. -/
def withTime? (d : Described) (hour minute second nanoseconds : Nat) (half : Option Bool) :
    Option Described :=
  let hour? := match half with
    | none => if hour < 24 then some hour else none
    | some late => if 1 ≤ hour ∧ hour ≤ 12 then some (hour % 12 + if late then 12 else 0) else none
  match hour? with
  | some hour =>
      if d.time.isSome ∨ 60 ≤ minute ∨ 60 ≤ second then none
      else some { d with
        time := some (nanosecondsPerSecond * (3600 * hour + 60 * minute + second) + nanoseconds) }
  | none => none

/-- Say the zone. -/
def withZone? (d : Described) (minutes : Int) : Option Described :=
  if d.zone.isSome then none else some { d with zone := some minutes }

/-- Say a distance. -/
def withDistance (d : Described) (n : Int) : DateUnit → Described
  | .months k => { d with moved := true, months := d.months + n * k }
  | .days k => { d with moved := true, days := d.days + n * k }
  | .seconds k => { d with moved := true, seconds := d.seconds + n * k }

end Described

/-- Whether a word names a half of the day, and which. -/
def halfOfDay? : List DateToken → Option Bool × List DateToken
  | .word "am" :: rest => (some false, rest)
  | .word "pm" :: rest => (some true, rest)
  | rest => (none, rest)

/-- The number in front of a unit, turned if `ago` follows. -/
def turned (n : Int) : List DateToken → Int × List DateToken
  | .word "ago" :: rest => (-n, rest)
  | rest => (n, rest)

/-- What digits with a sign are, as a zone. -/
def zoneMinutes (sign : Char) (digits : List Char) (minutes : Option (List Char)) : Int :=
  let n := digitsValue digits
  let total : Nat := match minutes with
    | some more => 60 * n + digitsValue more
    | none => if digits.length ≤ 2 then 60 * n else 60 * (n / 100) + n % 100
  if sign = '-' then -(total : Int) else total

/-- What follows a time of the day. -/
def readZone? (d : Described) : List DateToken → Option (Described × List DateToken)
  | .number (some sign) digits :: .mark ':' :: .number none minutes :: rest =>
      (d.withZone? (zoneMinutes sign digits (some minutes))).map (·, rest)
  | .number (some sign) digits :: rest =>
      (d.withZone? (zoneMinutes sign digits none)).map (·, rest)
  | rest => some (d, rest)

/-- The number of nanoseconds that the digits of a fraction are. -/
def fractionNanoseconds (digits : List Char) : Nat :=
  digitsValue ((digits ++ List.replicate 9 '0').take 9)

/-- A time of the day, whose hours and minutes are given. -/
def readTime? (d : Described) (hour minute : List Char) (rest : List DateToken) :
    Option (Described × List DateToken) := do
  let (second, nanoseconds, rest) := match rest with
    | .mark ':' :: .number none s :: .mark '.' :: .number none f :: rest
    | .mark ':' :: .number none s :: .mark ',' :: .number none f :: rest =>
        (digitsValue s, fractionNanoseconds f, rest)
    | .mark ':' :: .number none s :: rest => (digitsValue s, 0, rest)
    | rest => (0, 0, rest)
  let (half, rest) := halfOfDay? rest
  let d ← d.withTime? (digitsValue hour) (digitsValue minute) second nanoseconds half
  if half.isSome then some (d, rest) else readZone? d rest

/-- A number that nothing belongs to: a year, a date, or a time of the day. -/
def readBare? (d : Described) (digits : List Char) : Option Described :=
  let n := digitsValue digits
  match d.date with
  | some (none, month, day) =>
      if !d.moved ∧ (d.time.isSome ∨ 2 < digits.length) then
        some { d with date := some (some (yearOf digits), month, day) }
      else time n
  | _ =>
      if 4 < digits.length then
        d.withDate? (some (yearOf (digits.take (digits.length - 4)))) (n / 100 % 100) (n % 100)
      else time n
where
  /-- An hour, or an hour and minutes. -/
  time (n : Nat) : Option Described :=
    if digits.length ≤ 2 then d.withTime? n 0 0 0 none else d.withTime? (n / 100) (n % 100) 0 0 none

/-- What a word that stands alone says. -/
def readWord? (d : Described) (word : String) : Option Described :=
  match word with
  | "now" | "today" => some { d with moved := true }
  | "yesterday" => some (d.withDistance (-1) (.days 1))
  | "tomorrow" => some (d.withDistance 1 (.days 1))
  | word =>
      match weekday? word with
      | some day => if d.weekday.isSome then none else some { d with weekday := some (day, 0) }
      | none => none

/-- What follows a named zone: a further distance from it, or that clocks are put forward. -/
def zoneSuffix : List DateToken → Int × List DateToken
  | .word "dst" :: rest => (60, rest)
  | .number (some sign) digits :: .mark ':' :: .number none minutes :: rest =>
      (zoneMinutes sign digits (some minutes), rest)
  | .number (some sign) digits :: .word word :: rest =>
      if (unit? word).isSome then (0, .number (some sign) digits :: .word word :: rest)
      else (zoneMinutes sign digits none, .word word :: rest)
  | .number (some sign) digits :: rest => (zoneMinutes sign digits none, rest)
  | rest => (0, rest)

/-- The first part of a description, and what follows it. -/
def readPart? (d : Described) : List DateToken → Option (Described × List DateToken)
  | .number none h :: .mark ':' :: .number none m :: rest => readTime? d h m rest
  | .number none y :: .number (some '-') m :: .number (some '-') day :: rest =>
      (d.withDate? (some (yearOf y)) (digitsValue m) (digitsValue day)).map (·, rest)
  | .number none a :: .mark '/' :: .number none b :: .mark '/' :: .number none c :: rest =>
      if 4 ≤ a.length then
        (d.withDate? (some (yearOf a)) (digitsValue b) (digitsValue c)).map (·, rest)
      else (d.withDate? (some (yearOf c)) (digitsValue a) (digitsValue b)).map (·, rest)
  | .number none a :: .mark '/' :: .number none b :: rest =>
      (d.withDate? none (digitsValue a) (digitsValue b)).map (·, rest)
  | .number sign n :: .word word :: rest =>
      let value : Int := if sign = some '-' then -(digitsValue n : Int) else digitsValue n
      match unit? word, month? word, sign with
      | some unit, _, _ =>
          let (value, rest) := turned value rest
          some (d.withDistance value unit, rest)
      | none, some month, none =>
          match rest with
          | .number none _ :: .mark ':' :: _ => (d.withDate? none month value.toNat).map (·, rest)
          | .number _ year :: rest =>
              (d.withDate? (some (yearOf year)) month value.toNat).map (·, rest)
          | rest => (d.withDate? none month value.toNat).map (·, rest)
      | none, none, none =>
          match halfOfDay? (.word word :: rest) with
          | (some half, rest) => (d.withTime? value.toNat 0 0 0 (some half)).map (·, rest)
          | (none, _) => (readBare? d n).map (·, .word word :: rest)
      | _, _, _ => none
  | .number none n :: rest => (readBare? d n).map (·, rest)
  | .word word :: rest =>
      match month? word, rest with
      | some month, .number none day :: .mark ',' :: .number none year :: rest =>
          (d.withDate? (some (yearOf year)) month (digitsValue day)).map (·, rest)
      | some month, .number none day :: rest =>
          (d.withDate? none month (digitsValue day)).map (·, rest)
      | _, rest =>
          match unit? word, ordinal? word, rest with
          | some unit, _, rest =>
              let (value, rest) := turned 1 rest
              some (d.withDistance value unit, rest)
          | none, some n, .word next :: rest =>
              match unit? next, weekday? next with
              | some unit, _ =>
                  let (value, rest) := turned n rest
                  some (d.withDistance value unit, rest)
              | none, some day =>
                  if d.weekday.isSome then none
                  else some ({ d with weekday := some (day, n) }, rest)
              | none, none => none
          | none, _, rest =>
              let isMark := word = "t" && d.date.isSome && match rest with
                | .number none _ :: _ => true
                | _ => false
              if isMark then some (d, rest)
              else if let some minutes := zone? word then
                let (more, rest) := zoneSuffix rest
                (d.withZone? (minutes + more)).map (·, rest)
              else
                let rest := match weekday? word, rest with
                  | some _, .mark ',' :: rest => rest
                  | _, rest => rest
                (readWord? d word).map (·, rest)
  | _ => none

/-- What a description says; each step takes a part. -/
def describedWithin : (steps : Nat) → Described → List DateToken → Option Described
  | 0, _, _ => none
  | _, d, [] => some d
  | steps + 1, d, tokens => do
      let (d, rest) ← readPart? d tokens
      describedWithin steps d rest

/-- The point in time that was described, in nanoseconds, seen from another one. -/
def Described.moment? (d : Described) (now : Moment) : Option Int := do
  let (year, month, day) ← match d.date with
    | some (year, month, day) => some (year.getD now.year, month, day)
    | none => some (now.year, now.month, now.day)
  if month < 1 ∨ 12 < month ∨ day < 1 ∨ daysOfMonth year month < day then none
  let time : Nat := match d.time with
    | some time => time
    | none =>
        if d.date.isSome ∨ d.weekday.isSome ∨ !d.moved then 0
        else
          let seconds := 3600 * now.hour + 60 * now.minute + now.second
          nanosecondsPerSecond * seconds + now.nanoseconds
  let months := 12 * year + (month - 1) + d.months
  let toWeekday : Int := match d.weekday, d.date with
    | some (weekday, n), none =>
        let ahead := ((weekday : Int) - now.weekday) % 7
        ahead + 7 * (n - if 0 < n ∧ ahead ≠ 0 then 1 else 0)
    | _, _ => 0
  let days := daysOfDate (months / 12) ((months % 12).toNat + 1) day + d.days + toWeekday
  let seconds := days * daySeconds - 60 * d.zone.getD 0 + d.seconds
  some (seconds * nanosecondsPerSecond + time)

/-- The point in time that a description comes to, seen from another one, in nanoseconds. -/
def readMoment? (now : Int) (text : String) : Option Int :=
  match DateToken.tokens text with
  | [.mark '@', .number sign n] => some (seconds sign n 0)
  | [.mark '@', .number sign n, .mark '.', .number none f]
  | [.mark '@', .number sign n, .mark ',', .number none f] =>
      some (seconds sign n (fractionNanoseconds f))
  | tokens =>
      (describedWithin (tokens.length + 1) {} tokens).bind fun d =>
        d.moment? (.ofNanoseconds now)
where
  /-- Seconds and a fraction. -/
  seconds (sign : Option Char) (digits : List Char) (fraction : Nat) : Int :=
    let n : Int := nanosecondsPerSecond * digitsValue digits + fraction
    if sign = some '-' then -n else n

/-- The point in time that a row of digits comes to: the year unless it is left out, the month, the
day, the hour and the minute in two digits each, and the second behind a point. -/
def stampMoment? (now : Int) (text : String) : Option Int := do
  let cs := text.toList
  let digits := cs.takeWhile Char.isDigit
  let second ← match cs.drop digits.length with
    | [] => some 0
    | '.' :: more =>
        if more.length = 2 ∧ more.all Char.isDigit then some (digitsValue more) else none
    | _ => none
  let n := digitsValue digits
  let year ← match digits.length with
    | 8 => some none
    | 10 => some (some (yearOf (digits.take 2)))
    | 12 => some (some (yearOf (digits.take 4)))
    | _ => none
  let d : Described := { date := some (year, n / 1000000 % 100, n / 10000 % 100) }
  let d ← d.withTime? (n / 100 % 100) (n % 100) second 0 none
  d.moment? (.ofNanoseconds now)

end ToyLang.Format
