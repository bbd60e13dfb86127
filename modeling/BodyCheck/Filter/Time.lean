import BodyCheck.Number.Digits

/-!
# Times

A time is a number of seconds since the start of 1970, with a part of a second in billionths.  Its
text holds the day of the calendar and the time of the day at the meridian, as in
`1970-01-01T00:00:00Z`.  The calendar is the one in use today, for all years: a leap year is one
that four divides and hundred does not, or that four hundred divides.

A minute may have a sixty-first second.  It counts as a part of the one before it, so a part of a
second may exceed a billion.

`Day.number` counts the days from a year that begins in March, so that the leap day stands last, and
`Day.ofNumber` undoes it.  Both go by eras of four hundred years, which all have the same length.
-/

namespace BodyCheck

namespace Filter

/-! ## Days -/

/-- A day of the calendar. -/
structure Day where
  year : Int
  /-- The month, from one. -/
  month : Int
  /-- The day of the month, from one. -/
  day : Int
deriving DecidableEq, Repr

namespace Day

/-- The days of an era of four hundred years. -/
def daysPerEra : Int := 146097

/-- The days from the start of the year zero, in March, to the start of 1970. -/
def daysBefore1970 : Int := 719468

/-- The day with the given number after the first one of 1970. -/
def ofNumber (number : Int) : Day :=
  let days := number + daysBefore1970
  let era := days.fdiv daysPerEra
  let ofEra := days - era * daysPerEra
  let yearOfEra := (ofEra - ofEra / 1460 + ofEra / 36524 - ofEra / 146096) / 365
  let ofYear := ofEra - (365 * yearOfEra + yearOfEra / 4 - yearOfEra / 100)
  let monthFromMarch := (5 * ofYear + 2) / 153
  let month := if monthFromMarch < 10 then monthFromMarch + 3 else monthFromMarch - 9
  { year := yearOfEra + era * 400 + (if month ≤ 2 then 1 else 0)
    month
    day := ofYear - (153 * monthFromMarch + 2) / 5 + 1 }

/-- The number of days since the first one of 1970. -/
def number (d : Day) : Int :=
  let year := if d.month ≤ 2 then d.year - 1 else d.year
  let era := year.fdiv 400
  let yearOfEra := year - era * 400
  let monthFromMarch := if d.month ≤ 2 then d.month + 9 else d.month - 3
  let ofYear := (153 * monthFromMarch + 2) / 5 + d.day - 1
  let ofEra := yearOfEra * 365 + yearOfEra / 4 - yearOfEra / 100 + ofYear
  era * daysPerEra + ofEra - daysBefore1970

/-- The month has the day. -/
def isValid (d : Day) : Bool := d.month ≤ 12 && ofNumber d.number == d

/-- The first day of the year. -/
def startOfYear (d : Day) : Day := ⟨d.year, 1, 1⟩

/-- The number of the day in its year, from one. -/
def ofYear (d : Day) : Nat := (d.number - d.startOfYear.number + 1).toNat

/-- The number of the day in its week, from zero for a Sunday. -/
def ofWeek (d : Day) : Nat := ((d.number + 4).emod 7).toNat

/-- The number of the day in its week, from zero for a Monday. -/
def ofWeekFromMonday (d : Day) : Nat := (d.ofWeek + 6) % 7

/-- The year that most of the week of the day lies in, where weeks begin on Monday: that of its
Thursday. -/
def yearOfWeek (d : Day) : Int := (ofNumber (d.number - d.ofWeekFromMonday + 3)).year

/-- The number of the week of the day in the year that most of it lies in. -/
def week (d : Day) : Nat := ((ofNumber (d.number - d.ofWeekFromMonday + 3)).ofYear + 6) / 7

/-- The year of a text has four digits; one that takes more, or a sign, shows its sign. -/
def yearText (year : Int) : List Char :=
  let digits := atLeast 4 year.natAbs
  if year < 0 then '-' :: digits else if 9999 < year then '+' :: digits else digits
where
  /-- A number in at least so many digits. -/
  atLeast (width n : Nat) : List Char :=
    List.replicate (width - (decimalDigits n).length) '0' ++ decimalDigits n

end Day

/-- A number in two digits. -/
def twoDigits (n : Nat) : List Char := Day.yearText.atLeast 2 n

/-! ## Times -/

/-- A time. -/
structure Time where
  /-- The seconds since the start of 1970. -/
  seconds : Int
  /-- The billionths of a second that have passed since. -/
  fraction : Nat := 0
deriving DecidableEq, Repr

namespace Time

/-- The seconds of a day. -/
def secondsPerDay : Int := 86400

/-- The day of a time. -/
def day (t : Time) : Day := Day.ofNumber (t.seconds.fdiv secondsPerDay)

/-- The seconds since the start of the day. -/
def ofDay (t : Time) : Nat := (t.seconds.fmod secondsPerDay).toNat

/-- The last year, with or without a sign, of which times have a text. -/
def lastYear : Int := 262142

/-- The time so many seconds after the start of 1970, if it is not too far away. -/
def ofSeconds? (seconds : Int) : Option Time :=
  let t : Time := { seconds }
  if t.day.year.natAbs ≤ lastYear then some t else none

/-- The time so many millionths of a second after the start of 1970, if it is not too far away. -/
def ofMicroseconds? (n : Int) : Option Time :=
  (ofSeconds? (n.fdiv 1000000)).map fun t => { t with fraction := (n.fmod 1000000).toNat * 1000 }

/-- The millionths of a second since the start of 1970. -/
def microseconds (t : Time) : Int := t.seconds * 1000000 + t.fraction / 1000

/-- The text of a time up to the second. -/
def renderStart (t : Time) : List Char :=
  Day.yearText t.day.year ++ '-' :: twoDigits t.day.month.toNat ++ '-' :: twoDigits t.day.day.toNat
    ++ 'T' :: twoDigits (t.ofDay / 3600) ++ ':' :: twoDigits (t.ofDay / 60 % 60)
    ++ ':' :: twoDigits (t.ofDay % 60)

/-- The text of a time without its fraction. -/
def render (t : Time) : List Char := t.renderStart ++ ['Z']

/-- The text of a time with its fraction in six digits. -/
def renderFine (t : Time) : List Char :=
  t.renderStart ++ '.' :: Day.yearText.atLeast 6 (t.fraction / 1000) ++ ['Z']

/-- The time of a day, if it exists. -/
def atDay? (day : Day) (hours minutes seconds fraction : Nat) : Option Time :=
  let ofDay := (hours * 60 + minutes) * 60 + min seconds 59
  if day.isValid && hours ≤ 23 && minutes ≤ 59 && seconds ≤ 60 then
    some { seconds := day.number * secondsPerDay + ofDay
           fraction := fraction + if seconds = 60 then 1000000000 else 0 }
  else none

/-! ## Reading -/

/-- The number that so many digits at the front of a text stand for, and what is left. -/
def readDigits? (count : Nat) (text : List Char) : Option (Nat × List Char) :=
  let digits := text.take count
  if digits.length = count && digits.all Char.isDigit then
    some (digitsValue digits, text.drop count)
  else none

/-- What follows one of the given characters. -/
def readOne? (allowed : List Char) : List Char → Option (List Char)
  | [] => none
  | c :: rest => if allowed.contains c then some rest else none

/-- The fraction of a second at the front of a text, in billionths, and what is left. -/
def readFraction? : List Char → Option (Nat × List Char)
  | '.' :: rest =>
    let digits := rest.takeWhile Char.isDigit
    if digits.isEmpty then none
    else
      let fine := (digits ++ List.replicate 9 '0').take 9
      some (digitsValue fine, rest.dropWhile Char.isDigit)
  | text => some (0, text)

/-- The seconds by which the time of a place is ahead, at the end of a text. -/
def readOffset? : List Char → Option Int
  | ['Z'] | ['z'] => some 0
  | sign :: rest => do
    let (hours, rest) ← readDigits? 2 rest
    let (minutes, rest) ← readDigits? 2 (← readOne? [':'] rest)
    guard (rest.isEmpty ∧ hours ≤ 23 ∧ minutes ≤ 59)
    let ahead : Int := (hours * 60 + minutes) * 60
    match sign with
    | '+' => some ahead
    | '-' | '−' => some (-ahead)
    | _ => none
  | [] => none

/-- The time that a text stands for. -/
def read? (text : List Char) : Option Time := do
  let (year, text) ← readDigits? 4 text
  let (month, text) ← readDigits? 2 (← readOne? ['-'] text)
  let (day, text) ← readDigits? 2 (← readOne? ['-'] text)
  let (hours, text) ← readDigits? 2 (← readOne? ['T', 't', ' '] text)
  let (minutes, text) ← readDigits? 2 (← readOne? [':'] text)
  let (seconds, text) ← readDigits? 2 (← readOne? [':'] text)
  let (fraction, text) ← readFraction? text
  let offset ← readOffset? text
  let date : Day := ⟨year, month, day⟩
  let t ← atDay? date hours minutes seconds fraction
  return { t with seconds := t.seconds - offset }

example : (⟨2000, 2, 29⟩ : Day).number = 11016 := by decide
example : Day.ofNumber 11016 = ⟨2000, 2, 29⟩ := by decide
example : (⟨1900, 2, 29⟩ : Day).isValid = false := by decide
example : (⟨2021, 1, 3⟩ : Day).yearOfWeek = 2020 ∧ (⟨2021, 1, 3⟩ : Day).week = 53 := by decide
example : Day.ofNumber (-1) = ⟨1969, 12, 31⟩ := by decide

end Time

end Filter

end BodyCheck
