import BodyCheck.Filter.Time
import BodyCheck.Filter.Token

/-!
# Times in a format

A format is a text in which letters behind a percent sign stand for parts of a time.  The same
format serves for writing times (`Item.render`) and for reading them (`read?`).  Some letters stand
for a longer format, such as `%T` for `%H:%M:%S`.

A time is written as the clocks of a zone tell it (`LocalTime`).  What is read is a time at the
meridian.

Reading gathers the parts that a text gives (`Parts`).  A part that is given twice has to be the
same.  A day and a time of the day are made of them, and every part has to agree with what is made.
-/

namespace BodyCheck

namespace Filter

namespace TimeFormat

/-! ## Formats -/

/-- A part of a time that is a number. -/
inductive Part where
  | year
  | century
  | yearOfCentury
  /-- The year that most of the week lies in. -/
  | weekYear
  | weekYearOfCentury
  | quarter
  | month
  | day
  /-- The weeks since the first Sunday of the year. -/
  | weekFromSunday
  /-- The weeks since the first Monday of the year. -/
  | weekFromMonday
  /-- The number of the week in the year that most of it lies in. -/
  | week
  /-- The days since Sunday. -/
  | dayFromSunday
  /-- The day of the week, where Monday is the first one. -/
  | dayFromMonday
  | dayOfYear
  | hour
  /-- The hour of the half of the day, from one to twelve. -/
  | hourOfHalf
  | minute
  | second
  | billionths
  /-- The seconds since the start of 1970. -/
  | timestamp
deriving DecidableEq, Repr

/-- What a number is filled up with. -/
inductive Filling where
  | zeros
  | blanks
  | nothing
deriving DecidableEq, Repr

/-- A piece of a format. -/
inductive Item where
  | literal (ch : Char)
  | blank (ch : Char)
  | number (part : Part) (filling : Filling)
  | monthName (long : Bool)
  | dayName (long : Bool)
  /-- The half of the day, in upper or lower case. -/
  | half (upper : Bool)
  /-- The fraction of a second with its point: so many digits, or as many as it needs. -/
  | fraction (digits : Option Nat)
  /-- So many digits of the fraction of a second. -/
  | fractionDigits (digits : Nat)
  | zoneName
  /-- How far a zone is ahead, with so many colons. -/
  | offset (colons : Nat)
  /-- How far a zone is ahead; it may be a letter, or lack the minutes. -/
  | anyOffset
  /-- The whole time with its zone. -/
  | full
deriving Repr

/-- The longer format that a letter stands for. -/
def longer? : Char → Option String
  | 'D' | 'x' => some "%m/%d/%y"
  | 'F' => some "%Y-%m-%d"
  | 'R' => some "%H:%M"
  | 'T' | 'X' => some "%H:%M:%S"
  | 'c' => some "%a %b %e %H:%M:%S %Y"
  | 'r' => some "%I:%M:%S %p"
  | 'v' => some "%e-%b-%Y"
  | _ => none

/-- The number that a letter stands for, and what it is filled up with. -/
def number? : Char → Option (Part × Filling)
  | 'Y' => some (.year, .zeros)
  | 'C' => some (.century, .zeros)
  | 'y' => some (.yearOfCentury, .zeros)
  | 'G' => some (.weekYear, .zeros)
  | 'g' => some (.weekYearOfCentury, .zeros)
  | 'q' => some (.quarter, .nothing)
  | 'm' => some (.month, .zeros)
  | 'd' => some (.day, .zeros)
  | 'e' => some (.day, .blanks)
  | 'U' => some (.weekFromSunday, .zeros)
  | 'W' => some (.weekFromMonday, .zeros)
  | 'V' => some (.week, .zeros)
  | 'w' => some (.dayFromSunday, .nothing)
  | 'u' => some (.dayFromMonday, .nothing)
  | 'j' => some (.dayOfYear, .zeros)
  | 'H' => some (.hour, .zeros)
  | 'k' => some (.hour, .blanks)
  | 'I' => some (.hourOfHalf, .zeros)
  | 'l' => some (.hourOfHalf, .blanks)
  | 'M' => some (.minute, .zeros)
  | 'S' => some (.second, .zeros)
  | 'f' => some (.billionths, .zeros)
  | 's' => some (.timestamp, .nothing)
  | _ => none

/-- What another letter stands for. -/
def named? : Char → Option Item
  | 'A' => some (.dayName true)
  | 'a' => some (.dayName false)
  | 'B' => some (.monthName true)
  | 'b' | 'h' => some (.monthName false)
  | 'P' => some (.half false)
  | 'p' => some (.half true)
  | 'Z' => some .zoneName
  | 'z' => some (.offset 0)
  | '+' => some .full
  | 'n' => some (.blank '\n')
  | 't' => some (.blank '\t')
  | '%' => some (.literal '%')
  | _ => none

/-- A character that stands for itself. -/
def plain (ch : Char) : Item := if Token.isBlank ch then .blank ch else .literal ch

/-- The item behind a percent sign, other than a longer format, and what is left. -/
def item? : List Char → Option (Item × List Char)
  | '-' :: ch :: rest => (number? ch).map fun (part, _) => (.number part .nothing, rest)
  | '0' :: ch :: rest => (number? ch).map fun (part, _) => (.number part .zeros, rest)
  | '_' :: ch :: rest => (number? ch).map fun (part, _) => (.number part .blanks, rest)
  | '#' :: 'z' :: rest => some (.anyOffset, rest)
  | ':' :: ':' :: ':' :: 'z' :: rest => some (.offset 3, rest)
  | ':' :: ':' :: 'z' :: rest => some (.offset 2, rest)
  | ':' :: 'z' :: rest => some (.offset 1, rest)
  | '.' :: 'f' :: rest => some (.fraction none, rest)
  | '.' :: '3' :: 'f' :: rest => some (.fraction (some 3), rest)
  | '.' :: '6' :: 'f' :: rest => some (.fraction (some 6), rest)
  | '.' :: '9' :: 'f' :: rest => some (.fraction (some 9), rest)
  | '3' :: 'f' :: rest => some (.fractionDigits 3, rest)
  | '6' :: 'f' :: rest => some (.fractionDigits 6, rest)
  | '9' :: 'f' :: rest => some (.fractionDigits 9, rest)
  | ch :: rest =>
    match number? ch with
    | some (part, filling) => some (.number part filling, rest)
    | none => (named? ch).map fun i => (i, rest)
  | [] => none

/-- The items of a format, in which longer formats may occur if there is one for their letter.  The
bound is the length of the format. -/
def itemsWith (longer : Char → Option (List Item)) : Nat → List Char → Option (List Item)
  | _, [] => some []
  | 0, _ :: _ => none
  | n + 1, '%' :: rest =>
    match rest.head?.bind longer with
    | some items => (itemsWith longer n (rest.drop 1)).map (items ++ ·)
    | none => do
      let (i, rest) ← item? rest
      return i :: (← itemsWith longer n rest)
  | n + 1, ch :: rest => (itemsWith longer n rest).map (plain ch :: ·)

/-- The items of a longer format. -/
def longerItems? (ch : Char) : Option (List Item) := do
  let f ← longer? ch
  itemsWith (fun _ => none) f.length f.toList

/-- The items of a format. -/
def items? (f : String) : Option (List Item) := itemsWith longerItems? f.length f.toList

/-! ## Names -/

/-- The names of the months. -/
def monthNames : List String :=
  ["January", "February", "March", "April", "May", "June", "July", "August", "September",
    "October", "November", "December"]

/-- The names of the days of a week, from Sunday on. -/
def dayNames : List String :=
  ["Sunday", "Monday", "Tuesday", "Wednesday", "Thursday", "Friday", "Saturday"]

/-- A name, or its first three letters. -/
def nameText (long : Bool) (names : List String) (n : Nat) : List Char :=
  let name := (names.getD n "").toList
  if long then name else name.take 3

/-! ## Zones -/

/-- How far clocks are ahead, in hours and minutes, with so many colons.  With two there are the
seconds as well, and with three only the hours.  Where seconds are left out, minutes are rounded. -/
def offsetText (ahead : Int) (colons : Nat) : List Char :=
  let sign := if ahead < 0 then '-' else '+'
  let seconds := ahead.natAbs
  let minutes := (seconds + 30) / 60
  match colons with
  | 0 => sign :: twoDigits (minutes / 60) ++ twoDigits (minutes % 60)
  | 1 => sign :: twoDigits (minutes / 60) ++ ':' :: twoDigits (minutes % 60)
  | 2 =>
    sign :: twoDigits (seconds / 3600) ++ ':' :: twoDigits (seconds / 60 % 60)
      ++ ':' :: twoDigits (seconds % 60)
  | _ => sign :: twoDigits (seconds / 3600)

/-- A moment as the clocks of a zone tell it. -/
structure LocalTime where
  moment : Time
  /-- The seconds by which the clocks are ahead of those at the meridian. -/
  ahead : Int
  /-- The name of the zone. -/
  zone : String

/-- A moment as the clocks at the meridian tell it. -/
def LocalTime.atMeridian (t : Time) : LocalTime := ⟨t, 0, "UTC"⟩

/-- A moment as clocks tell it that are so many seconds ahead.  Their zone is named after this. -/
def LocalTime.atOffset (ahead : Int) (t : Time) : LocalTime :=
  ⟨t, ahead, String.ofList (offsetText ahead (if ahead % 60 = 0 then 1 else 2))⟩

/-- What the clocks show, as if it were a time at the meridian. -/
def LocalTime.shown (l : LocalTime) : Time :=
  { l.moment with seconds := l.moment.seconds + l.ahead }

/-! ## Writing -/

/-- The weeks of a year up to a day that is so many days behind the start of its week. -/
def weeksUpTo (d : Day) (behind : Nat) : Nat := (d.ofYear + 6 - behind) / 7

/-- The number that a part of a time is. -/
def Part.value (t : Time) : Part → Int
  | .year => t.day.year
  | .century => t.day.year / 100
  | .yearOfCentury => t.day.year % 100
  | .weekYear => t.day.yearOfWeek
  | .weekYearOfCentury => t.day.yearOfWeek % 100
  | .quarter => (t.day.month + 2) / 3
  | .month => t.day.month
  | .day => t.day.day
  | .weekFromSunday => weeksUpTo t.day t.day.ofWeek
  | .weekFromMonday => weeksUpTo t.day t.day.ofWeekFromMonday
  | .week => t.day.week
  | .dayFromSunday => t.day.ofWeek
  | .dayFromMonday => t.day.ofWeekFromMonday + 1
  | .dayOfYear => t.day.ofYear
  | .hour => (t.ofDay / 3600 : Nat)
  | .hourOfHalf => ((t.ofDay / 3600 + 11) % 12 + 1 : Nat)
  | .minute => (t.ofDay / 60 % 60 : Nat)
  | .second => (t.ofDay % 60 + t.fraction / 1000000000 : Nat)
  | .billionths => (t.fraction % 1000000000 : Nat)
  | .timestamp => t.seconds

/-- The number of places of a part. -/
def Part.width : Part → Nat
  | .year | .weekYear => 4
  | .quarter | .dayFromSunday | .dayFromMonday => 1
  | .dayOfYear => 3
  | .billionths | .timestamp => 9
  | _ => 2

/-- A number in at least so many places.  Years out of four digits show their sign. -/
def numberText (filling : Filling) (width : Nat) (signed : Bool) (n : Int) : List Char :=
  let digits := decimalDigits n.natAbs
  let sign := if n < 0 then ['-'] else if signed then ['+'] else []
  let missing := (if signed then width + 1 else width) - (digits.length + sign.length)
  match filling with
  | .zeros => sign ++ List.replicate missing '0' ++ digits
  | .blanks => List.replicate missing ' ' ++ sign ++ digits
  | .nothing => sign ++ digits

/-- A part of a time. -/
def Part.render (t : Time) (filling : Filling) (p : Part) : List Char :=
  let n := p.value t
  let isYear := p = .year ∨ p = .weekYear
  numberText filling p.width (isYear ∧ (n < 0 ∨ 9999 < n)) n

/-- So many digits of a part of a second. -/
def fractionText (digits : Nat) (t : Time) : List Char :=
  Day.yearText.atLeast digits (t.fraction % 1000000000 / Nat.pow 10 (9 - digits))

/-- The digits that a part of a second needs: none, three, six or nine. -/
def digitsNeeded (t : Time) : Nat :=
  let fraction := t.fraction % 1000000000
  if fraction = 0 then 0
  else if fraction % 1000000 = 0 then 3
  else if fraction % 1000 = 0 then 6
  else 9

/-- The fraction of a second with its point, if there are digits. -/
def pointed (digits : Nat) (t : Time) : List Char :=
  if digits = 0 then [] else '.' :: fractionText digits t

/-- A piece of a format for a time.  Only the seconds since 1970 are the same in every zone. -/
def Item.render (l : LocalTime) (i : Item) : List Char :=
  let t := l.shown
  match i with
  | .literal ch | .blank ch => [ch]
  | .number .timestamp filling => Part.render l.moment filling .timestamp
  | .number part filling => part.render t filling
  | .monthName long => nameText long monthNames (t.day.month - 1).toNat
  | .dayName long => nameText long dayNames t.day.ofWeek
  | .half upper =>
    match decide (t.ofDay < 43200), upper with
    | true, true => ['A', 'M']
    | true, false => ['a', 'm']
    | false, true => ['P', 'M']
    | false, false => ['p', 'm']
  | .fraction digits => pointed (digits.getD (digitsNeeded t)) t
  | .fractionDigits digits => fractionText digits t
  | .zoneName => l.zone.toList
  | .offset colons => offsetText l.ahead colons
  | .anyOffset => offsetText l.ahead 0
  | .full =>
    Part.render t .zeros .year ++ '-' :: Part.render t .zeros .month
      ++ '-' :: Part.render t .zeros .day ++ 'T' :: Part.render t .zeros .hour
      ++ ':' :: Part.render t .zeros .minute ++ ':' :: Part.render t .zeros .second
      ++ pointed (digitsNeeded t) t ++ offsetText l.ahead 1

/-! ## Reading -/

/-- The parts of a time that a text gives, in the order in which they were last given. -/
abbrev Parts := List (Part × Int)

/-- Parts with another one, if that is not there with another value. -/
def given? (p : Part) (n : Int) (parts : Parts) : Option Parts :=
  match parts.lookup p with
  | none => some ((p, n) :: parts)
  | some m => if m = n then some parts else none

/-- The parts and the half of the day that have been read, and what is left of the text. -/
structure Progress where
  parts : Parts := []
  /-- The half of the day, the second one if it holds. -/
  half : Option Bool := none
  rest : List Char

/-- Progress with a part given. -/
def Progress.give (p : Part) (n : Int) (rest : List Char) (s : Progress) : Option Progress := do
  return { s with parts := ← given? p n s.parts, rest }

/-- The greatest number that is read: that of 63 bits. -/
def greatestNumber : Nat := Nat.pow 2 63 - 1

/-- Digits at the front of a text, at most so many if there is a limit. -/
def digits? (limit : Option Nat) (s : List Char) : Option (Nat × List Char) :=
  let digits := (limit.elim s s.take).takeWhile Char.isDigit
  if digits.isEmpty || greatestNumber < digitsValue digits then none
  else some (digitsValue digits, s.drop digits.length)

/-- The number of a part at the front of a text.  One with a sign may have any number of digits. -/
def readNumber? (p : Part) (s : List Char) : Option (Int × List Char) :=
  let signed := p = .year ∨ p = .weekYear ∨ p = .timestamp
  let limit := if p = .timestamp then none else some p.width
  match s.dropWhile Token.isBlank with
  | '-' :: rest =>
    if signed then (digits? none rest).map fun (n, rest) => (-(n : Int), rest) else none
  | '+' :: rest =>
    if signed then (digits? none rest).map fun (n, rest) => ((n : Int), rest) else none
  | s => (digits? limit s).map fun (n, rest) => ((n : Int), rest)

/-- What follows a word at the front of a text, in upper or lower case. -/
def stripWord? (word s : List Char) : Option (List Char) :=
  if (s.take word.length).map Char.toLower = word.map Char.toLower then some (s.drop word.length)
  else none

/-- The number of a name at the front of a text, counted from the given number.  Three letters are
enough, and of a long name the other ones follow if they are there. -/
def readName? (long : Bool) (s : List Char) : Nat → List String → Option (Nat × List Char)
  | _, [] => none
  | n, name :: names =>
    match stripWord? (name.toList.take 3) s with
    | some rest => some (n, if long then (stripWord? (name.toList.drop 3) rest).getD rest else rest)
    | none => readName? long s (n + 1) names

/-- What follows a colon or a blank, if there is one, and the blanks around it. -/
def skipColon (s : List Char) : List Char :=
  s.dropWhile fun ch => ch == ':' || Token.isBlank ch

/-- How far a zone is ahead, at the front of a text, and what is left.  The minutes may be missing
if they need not be there. -/
def readOffset? (needsMinutes allowsLetter : Bool) (s : List Char) : Option (List Char) :=
  match s.dropWhile Token.isBlank with
  | [] => none
  | sign :: rest =>
    if allowsLetter && (sign == 'Z' || sign == 'z') then some rest
    else if sign == '+' || sign == '-' || sign == '−' then do
      let (_, rest) ← Time.readDigits? 2 rest
      match Time.readDigits? 2 (skipColon rest) with
      | some (minutes, rest) => if minutes ≤ 59 then some rest else none
      | none => if needsMinutes then none else some rest
    else none

/-- Reads the item of a format. -/
def Item.read (i : Item) (s : Progress) : Option Progress :=
  match i with
  | .literal ch => do return { s with rest := ← Time.readOne? [ch] s.rest }
  | .blank _ => some { s with rest := s.rest.dropWhile Token.isBlank }
  | .number p _ => do
    let (n, rest) ← readNumber? p s.rest
    s.give p n rest
  | .monthName long => do
    let (n, rest) ← readName? long s.rest 1 monthNames
    s.give .month n rest
  | .dayName long => do
    let (n, rest) ← readName? long s.rest 0 dayNames
    s.give .dayFromSunday n rest
  | .half _ => do
    let (isSecond, rest) ←
      match stripWord? ['a', 'm'] s.rest, stripWord? ['p', 'm'] s.rest with
      | some rest, _ => some (false, rest)
      | none, some rest => some (true, rest)
      | none, none => none
    if s.half = some !isSecond then none else return { s with half := some isSecond, rest }
  | .fraction _ =>
    match s.rest with
    | '.' :: _ => do
      let (n, rest) ← Time.readFraction? s.rest
      s.give .billionths n rest
    | _ => some s
  | .fractionDigits count => do
    let (n, rest) ← Time.readDigits? count s.rest
    s.give .billionths (n * Nat.pow 10 (9 - count) : Nat) rest
  | .zoneName => some { s with rest := s.rest.dropWhile fun ch => !Token.isBlank ch }
  | .offset _ => do return { s with rest := ← readOffset? true false s.rest }
  | .anyOffset => do return { s with rest := ← readOffset? false true s.rest }
  | .full => none

/-- The year of a century and its rest, or of the rest alone: it lies from 1970 to 2069. -/
def yearOf (century rest : Option Int) : Option Int := do
  let rest ← rest
  match century with
  | some c => return c * 100 + rest
  | none => return if rest < 70 then 2000 + rest else 1900 + rest

/-- The day of the week, from Sunday on, that is given. -/
def weekDay? (parts : Parts) : Option Int :=
  match parts.lookup .dayFromSunday, parts.lookup .dayFromMonday with
  | some n, _ => some n
  | none, some n => some (n % 7)
  | none, none => none

/-- The day that parts stand for: by its month, by its number in the year, or by its week. -/
def day? (parts : Parts) : Option Day := do
  let byWeek (part : Part) (start : Nat → Int) : Option Day := do
    let year ← (parts.lookup .year).or
      (yearOf (parts.lookup .century) (parts.lookup .yearOfCentury))
    let first : Day := ⟨year, 1, 1⟩
    let behind := (start (← weekDay? parts).toNat - start first.ofWeek : Int)
    return Day.ofNumber (first.number + (← parts.lookup part) * 7 + behind
      - if start first.ofWeek = 0 then 7 else 0)
  let byMonthOrDay : Option Day := do
    let year ← (parts.lookup .year).or
      (yearOf (parts.lookup .century) (parts.lookup .yearOfCentury))
    match parts.lookup .month, parts.lookup .day, parts.lookup .dayOfYear with
    | some month, some day, _ => return ⟨year, month, day⟩
    | _, _, some n => return Day.ofNumber ((⟨year, 1, 1⟩ : Day).number + n - 1)
    | _, _, none => none
  let byIsoWeek : Option Day := do
    let year ← (parts.lookup .weekYear).or (yearOf none (parts.lookup .weekYearOfCentury))
    let fourth : Day := ⟨year, 1, 4⟩
    let weekDay := ((← weekDay? parts) + 6) % 7
    return Day.ofNumber (fourth.number - fourth.ofWeekFromMonday
      + ((← parts.lookup .week) - 1) * 7 + weekDay)
  byMonthOrDay
    |>.or (byWeek .weekFromSunday fun n => n)
    |>.or (byWeek .weekFromMonday fun n => (n + 6) % 7)
    |>.or byIsoWeek

/-- The hour that parts and the half of the day stand for. -/
def hour? (parts : Parts) (half : Option Bool) : Option Int :=
  match parts.lookup .hour, parts.lookup .hourOfHalf, half with
  | some hour, _, _ => some hour
  | none, some n, some isSecond =>
    if 1 ≤ n ∧ n ≤ 12 then some (n % 12 + if isSecond then 12 else 0) else none
  | none, _, _ => none

/-- The parts agree with a time.  The last second of a minute may be given as the sixty-first. -/
def agree (t : Time) (half : Option Bool) (parts : Parts) : Bool :=
  parts.all (fun (p, n) =>
    match p with
    | .dayFromMonday => n == p.value t
    | .timestamp => n == t.seconds || (1000000000 ≤ t.fraction && n == t.seconds + 1)
    | p => n == p.value t)
  && half.all (· == decide (43200 ≤ t.ofDay))

/-- The time that parts stand for. -/
def time? (s : Progress) : Option Time :=
  match day? s.parts, hour? s.parts s.half, s.parts.lookup .minute with
  | some day, some hour, some minute => do
    let second := s.parts.lookup .second
    let fraction := s.parts.lookup .billionths
    guard (0 ≤ hour ∧ (second.isSome ∨ fraction.isNone))
    let t ← Time.atDay? day hour.toNat minute.toNat (second.getD 0).toNat (fraction.getD 0).toNat
    if agree t s.half s.parts then return t else none
  | _, _, _ => do
    let t ← Time.ofSeconds? (← s.parts.lookup .timestamp)
    if agree t s.half s.parts then return t else none

/-- The time that a text stands for in a format. -/
def read? (items : List Item) (s : String) : Option Time := do
  let s ← items.foldlM (fun s i => Item.read i s) { rest := s.toList }
  if s.rest.isEmpty then time? s else none

example : (items? "%F %T %z, %s").map (·.flatMap (Item.render (.atOffset (-12600) ⟨86399, 0⟩)))
    = some "1970-01-01 20:29:59 -0330, 86399".toList := by decide +kernel
example : ((items? "%d %b %Y, %I:%M %p").bind (read? · "29 feb 2000, 01:05 PM")).map (·.seconds)
    = some 951829500 := by decide +kernel

end TimeFormat

end Filter

end BodyCheck
