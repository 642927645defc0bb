import TemplateShare.Text.Blank
import TemplateShare.Text.Decimal

/-! # Instants

Points in time in UTC with nanoseconds, and their RFC 3339 notation:

* **`Instant`**: seconds since 1970-01-01 and nanoseconds; a leap second counts as the second
  before it with a billion nanoseconds more.
* **`daysOfCivil`**, **`civilOfDays`**: the Gregorian calendar.
* **`Instant.render`**, **`Instant.parse`**: to and from RFC 3339. Reading is lenient about blanks
  and about the number of digits. -/

namespace TemplateShare

/-! ## The calendar -/

/-- A date of the Gregorian calendar. -/
structure CivilDate where
  year : Int
  month : Nat
  day : Nat
deriving DecidableEq, Repr

/-- The days from 1970-01-01 to a date. Years are counted from March, so that the leap day is the
last of its year. -/
def daysOfCivil (d : CivilDate) : Int :=
  let y := if d.month ≤ 2 then d.year - 1 else d.year
  let era := y.fdiv 400
  let yearOfEra := (y - era * 400).toNat
  let monthFromMarch := (d.month + 9) % 12
  let dayOfYear := (153 * monthFromMarch + 2) / 5 + d.day - 1
  let dayOfEra := yearOfEra * 365 + yearOfEra / 4 - yearOfEra / 100 + dayOfYear
  era * 146097 + dayOfEra - 719468

/-- The date that is a number of days after 1970-01-01. -/
def civilOfDays (days : Int) : CivilDate :=
  let z := days + 719468
  let era := z.fdiv 146097
  let dayOfEra := (z - era * 146097).toNat
  let yearOfEra := (dayOfEra - dayOfEra / 1460 + dayOfEra / 36524 - dayOfEra / 146096) / 365
  let dayOfYear := dayOfEra - (365 * yearOfEra + yearOfEra / 4 - yearOfEra / 100)
  let mp := (5 * dayOfYear + 2) / 153
  let day := dayOfYear - (153 * mp + 2) / 5 + 1
  let month := if mp < 10 then mp + 3 else mp - 9
  let year := (yearOfEra : Int) + era * 400
  ⟨if month ≤ 2 then year + 1 else year, month, day⟩

/-- Leap years. -/
def isLeapYear (y : Int) : Bool := y % 4 == 0 && (y % 100 != 0 || y % 400 == 0)

/-- The number of days of a month. -/
def daysInMonth (y : Int) (m : Nat) : Nat :=
  if m = 2 then if isLeapYear y then 29 else 28
  else if m = 4 ∨ m = 6 ∨ m = 9 ∨ m = 11 then 30
  else 31

/-! ## Instants -/

/-- **A point in time.** -/
structure Instant where
  /-- Seconds since the start of 1970. -/
  seconds : Int
  /-- Nanoseconds within the second; a billion or more in a leap second. -/
  nanos : Nat := 0
deriving DecidableEq, Repr

namespace Instant

/-- The first and the last second that can be represented. -/
def inRange (seconds : Int) : Bool := -8334601228800 ≤ seconds && seconds ≤ 8210266876799

/-- The instant of a number of seconds, if it can be represented. -/
def ofEpoch? (seconds : Int) : Option Instant :=
  if inRange seconds then some ⟨seconds, 0⟩ else none

/-! ## Writing -/

/-- The year: four digits, or a sign and at least four digits outside of them. -/
def yearText (y : Int) : List Char :=
  if 0 ≤ y ∧ y ≤ 9999 then Decimal.padded 4 y.toNat
  else (if y < 0 then '-' else '+') :: Decimal.padded 4 y.natAbs

/-- The fraction of a second with as many groups of three digits as it needs. -/
def fractionText (nanos : Nat) : List Char :=
  if nanos = 0 then []
  else if nanos % 1000000 = 0 then '.' :: Decimal.padded 3 (nanos / 1000000)
  else if nanos % 1000 = 0 then '.' :: Decimal.padded 6 (nanos / 1000)
  else '.' :: Decimal.padded 9 nanos

/-- **The RFC 3339 notation** in UTC. -/
def render (t : Instant) : String :=
  let d := civilOfDays (t.seconds.fdiv 86400)
  let s := (t.seconds - t.seconds.fdiv 86400 * 86400).toNat
  let leap := 1000000000 ≤ t.nanos
  let second := if leap then s % 60 + 1 else s % 60
  let nanos := if leap then t.nanos - 1000000000 else t.nanos
  String.ofList <|
    yearText d.year ++ '-' :: Decimal.padded 2 d.month ++ '-' :: Decimal.padded 2 d.day ++
      'T' :: Decimal.padded 2 (s / 3600) ++ ':' :: Decimal.padded 2 (s / 60 % 60) ++
      ':' :: Decimal.padded 2 second ++ fractionText nanos ++ ['Z']

/-! ## Reading -/

/-- A number of one to `width` digits behind any white space. -/
def number? (width : Nat) (s : List Char) : Option (Nat × List Char) :=
  let s := Text.dropSpace s
  let digits := (s.take width).takeWhile Char.isDigit
  (Decimal.natural? 10 digits).map (·, s.drop digits.length)

/-- The year: up to four digits, or a sign and any number of digits. -/
def year? (s : List Char) : Option (Int × List Char) :=
  match Text.dropSpace s with
  | '-' :: r => signed (-1) r
  | '+' :: r => signed 1 r
  | s => (number? 4 s).map fun (n, s) => ((n : Int), s)
where
  /-- The digits behind a sign. -/
  signed (sign : Int) (s : List Char) : Option (Int × List Char) :=
    let digits := s.takeWhile Char.isDigit
    (Decimal.natural? 10 digits).map fun n => (sign * n, s.dropWhile Char.isDigit)

/-- A separator behind any white space. -/
def separator? (c : Char) (s : List Char) : Option (List Char) :=
  match Text.dropSpace s with
  | x :: r => if x = c then some r else none
  | [] => none

/-- The fraction of a second in nanoseconds; digits after the ninth do not count. -/
def fraction? : List Char → Option (Nat × List Char)
  | '.' :: s =>
    let digits := s.takeWhile Char.isDigit
    let kept := digits.take 9
    (Decimal.natural? 10 kept).map fun n =>
      (n * Nat.pow 10 (9 - kept.length), s.dropWhile Char.isDigit)
  | s => some (0, s)

/-- Two digits. -/
def twoDigits? : List Char → Option (Nat × List Char)
  | a :: b :: s => if a.isDigit && b.isDigit then (Decimal.natural? 10 [a, b]).map (·, s) else none
  | _ => none

/-- The offset from UTC in seconds: `Z`, `UTC`, or a sign, hours and minutes with any colons and
white space between them. -/
def offset? (s : List Char) : Option (Int × List Char) :=
  match s with
  | 'Z' :: r | 'z' :: r => some (0, r)
  | c :: r =>
    if (s.take 3).map Char.toLower = ['u', 't', 'c'] then some (0, s.drop 3)
    else if c = '+' then hours 1 r
    else if c = '-' ∨ c = '\u2212' then hours (-1) r
    else none
  | [] => none
where
  /-- Hours and minutes behind the sign. -/
  hours (sign : Int) (s : List Char) : Option (Int × List Char) := do
    let (h, s) ← twoDigits? s
    let (m, s) ← twoDigits? (s.dropWhile fun c => c == ':' || Text.isSpace c)
    if m < 60 then some (sign * (h * 3600 + m * 60 : Nat), s) else none

/-- **Read an instant.** A blank may stand for the `T`, and sixty seconds are a leap second. -/
def parse (text : String) : Option Instant := do
  let (year, s) ← year? text.toList
  let (month, s) ← number? 2 (← separator? '-' s)
  let (day, s) ← number? 2 (← separator? '-' s)
  let s ← match s with
    | 'T' :: s | 't' :: s | ' ' :: s => some s
    | _ => none
  let (hour, s) ← number? 2 s
  let (minute, s) ← number? 2 (← separator? ':' s)
  let (second, s) ← number? 2 (← separator? ':' s)
  let (nanos, s) ← fraction? s
  let (offset, s) ← offset? (Text.dropSpace s)
  let dateValid := 1 ≤ month && month ≤ 12 && 1 ≤ day && day ≤ daysInMonth year month
  let timeValid := hour < 24 && minute < 60 && second ≤ 60
  let leap := second = 60
  let seconds := daysOfCivil ⟨year, month, day⟩ * 86400 + hour * 3600 + minute * 60 +
    (if leap then 59 else second) - offset
  if dateValid && timeValid && offset.natAbs < 86400 && inRange seconds &&
      (Text.dropSpace s).isEmpty then
    some ⟨seconds, if leap then nanos + 1000000000 else nanos⟩
  else none

end Instant

end TemplateShare
