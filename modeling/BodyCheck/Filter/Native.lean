import BodyCheck.Filter.Automaton
import BodyCheck.Filter.Format
import BodyCheck.Filter.Access
import BodyCheck.Filter.Surroundings
import BodyCheck.Filter.FromText
import BodyCheck.Filter.Mathematics

/-!
# Built-in functions

The functions on values that are not defined as filters.  Each takes the input and the values of its
arguments and gives one value, or fails.  A few of them also look at what lies around the filter.
`natives` lists them by name.
-/

namespace BodyCheck

namespace Filter

namespace Value

/-! ## Kinds -/

/-- A natural number. -/
def ofNat (n : Nat) : Value := .int n

/-- The text of a string. -/
def string? (v : Value) : Except Failure String :=
  match v with
  | .string s => .ok s
  | _ => .error (.role v .string)

/-- The elements of an array. -/
def items? (v : Value) : Except Failure (List Value) :=
  match v with
  | .array items => .ok items
  | _ => .error (.role v .array)

/-- The number that a value is. -/
def number? (v : Value) : Except Failure Extended :=
  match v.real? with
  | some x => .ok x
  | none => .error (.role v .number)

/-! ## Size and keys -/

/-- The size of a value: that of a number is its magnitude, modulo 2 ^ 64 for an integer. -/
def size (v : Value) : Except Failure Value :=
  match v with
  | .null => .ok (.int 0)
  | .bool _ => .error (.noLength v)
  | .int n => .ok (wrapped n.natAbs)
  | .real x => .ok (.real x.abs)
  | .numeral text => .ok (.real (realOfNumeral text).abs)
  | .string s => .ok (ofNat s.length)
  | .array items => .ok (ofNat items.length)
  | .object entries => .ok (ofNat entries.length)

/-- The keys of a value in their order. -/
def keys (v : Value) : Except Failure Value :=
  match v with
  | .array items => .ok (.array ((List.range items.length).map ofNat))
  | .object entries => .ok (.array (entries.map fun e => .string e.1))
  | _ => .error (.role v .iterable)

/-- The value has a key. -/
def has (v key : Value) : Except Failure Value :=
  match v, key with
  | .array items, .int n =>
    if 0 ≤ n then .ok (.bool (n < items.length)) else .error (.indexing v key)
  | .object entries, .string key => .ok (.bool (entries.lookup key).isSome)
  | _, _ => .error (.indexing v key)

/-- A text stands somewhere in another one. -/
def occursIn (needle : List Char) : List Char → Bool
  | [] => needle.isEmpty
  | c :: rest => (stripFront? needle (c :: rest)).isSome || occursIn needle rest

/-- The value holds another one, down to the given depth. -/
def containsWithin : Nat → Value → Value → Bool
  | 0, _, _ => false
  | n + 1, a, b =>
    match a, b with
    | .string s, .string t => occursIn t.toList s.toList
    | .array as, .array bs => bs.all fun b => as.any fun a => containsWithin n a b
    | .object as, .object bs => bs.all fun (k, b) =>
      match as.lookup k with
      | some a => containsWithin n a b
      | none => false
    | _, _ => a.same b

/-- The value holds another one. -/
def contains (a b : Value) : Bool := containsWithin (max a.depth b.depth) a b

/-- The places where a list that is not empty stands in another one. -/
def placesOf {α : Type} (matchesFront : List α → Bool) : Nat → List α → List Nat
  | _, [] => []
  | i, a :: rest =>
    if matchesFront (a :: rest) then i :: placesOf matchesFront (i + 1) rest
    else placesOf matchesFront (i + 1) rest

/-- The list begins with another one. -/
def beginsWith : List Value → List Value → Bool
  | _, [] => true
  | [], _ :: _ => false
  | a :: as, b :: bs => a.same b && beginsWith as bs

/-- The places of a value, a part of a list or a part of a text. -/
def indices (v i : Value) : Except Failure Value :=
  let found (places : List Nat) : Except Failure Value := .ok (.array (places.map ofNat))
  match v, i with
  | .string s, .string t =>
    if t.isEmpty then found []
    else found (placesOf (fun l => (stripFront? t.toList l).isSome) 0 s.toList)
  | .array items, .array part =>
    if part.isEmpty then found [] else found (placesOf (fun l => beginsWith l part) 0 items)
  | .array items, _ => found (placesOf (fun l => (l.head?.map i.same).getD false) 0 items)
  | _, _ => .error (.indexing v i)

/-- The entries of a value as objects with a key and a value. -/
def toEntries (v : Value) : Except Failure Value :=
  let entry (key value : Value) : Value := .object [("key", key), ("value", value)]
  match v with
  | .array items => .ok (.array (items.mapIdx fun i v => entry (ofNat i) v))
  | .object entries => .ok (.array (entries.map fun (k, v) => entry (.string k) v))
  | _ => .error (.role v .iterable)

/-- The entry that an object with a key and a value stands for. -/
def toEntry (v : Value) : Except Failure (String × Value) := do
  let key ← (← v.index (.string "key")).string?
  return (key, ← v.index (.string "value"))

/-- The object of the entries that objects with a key and a value stand for. -/
def fromEntries (v : Value) : Except Failure Value := do
  return .object (putEntries [] (← (← v.children).mapM toEntry))

/-! ## Texts -/

/-- A function on the text of a string. -/
def onText (f : String → String) (v : Value) : Except Failure Value := do
  return .string (f (← v.string?))

/-- A text without another one at its front. -/
def withoutFront (v front : Value) : Except Failure Value := do
  let s ← v.string?
  return .string (((stripFront? (← front.string?).toList s.toList).map String.ofList).getD s)

/-- A text without another one at its back. -/
def withoutBack (v back : Value) : Except Failure Value := do
  let s ← v.string?
  match stripFront? (← back.string?).toList.reverse s.toList.reverse with
  | some rest => return .string (String.ofList rest.reverse)
  | none => return v

/-- A text without blanks at its front. -/
def trimFront (s : String) : String := String.ofList (s.toList.dropWhile Token.isBlank)

/-- A text without blanks at its back. -/
def trimBack (s : String) : String :=
  String.ofList (s.toList.reverse.dropWhile Token.isBlank).reverse

/-- The numbers of the characters of a text. -/
def explode (v : Value) : Except Failure Value := do
  return .array ((← v.string?).toList.map fun c => ofNat c.toNat)

/-- The character with a number. -/
def char? (v : Value) : Except Failure Char := do
  let n ← v.int?
  if h : n.toNat.isValidChar then
    if 0 ≤ n then return Char.ofNatAux n.toNat h else throw (.unreadable v.json "character")
  else throw (.unreadable v.json "character")

/-- The text of the characters with the given numbers. -/
def implode (v : Value) : Except Failure Value := do
  return .string (String.ofList (← (← v.items?).mapM char?))

/-- The value that a JSON text stands for. -/
def fromJson (v : Value) : Except Failure Value := do
  let s ← v.string?
  match ofText? s with
  | some v => return v
  | none => throw (.unreadable s "JSON")

/-! ## Numbers -/

/-- A whole number: one in 64 bits with a sign or next to them is an integer, any other one is kept
as a numeral. -/
def ofWhole (n : Int) : Value :=
  if n.natAbs ≤ Nat.pow 2 63 then .int (min n (Nat.pow 2 63 - 1 : Int))
  else .numeral (String.ofList (Json.integerText n))

/-- A number without its fraction.  What is not finite stays as it is. -/
def rounded (rounding : Extended.Rounding) (v : Value) : Except Failure Value :=
  match v with
  | .int _ => .ok v
  | _ => do
    match ← v.number? with
    | .finite d => return ofWhole (rounding.apply d)
    | x => return .real x

/-- A whole number of 32 bits with a sign. -/
def smallInt? (v : Value) : Except Failure Int := do
  let n ← v.int?
  if -(Nat.pow 2 31 : Int) ≤ n ∧ n < Nat.pow 2 31 then return n else throw (.role v .integer)

/-- A number times a power of two. -/
def timesTwoTo (x e : Value) : Except Failure Value := do
  return .real ((← x.number?).timesTwoTo (← e.smallInt?))

/-- A number as a fraction and an exponent of two. -/
def fractionAndExponent (v : Value) : Except Failure Value := do
  let (fraction, exponent) := (← v.number?).fractionAndExponent
  return .array [.real fraction, .int exponent]

/-- The fraction of a number and the rest of it. -/
def fractionAndWhole (v : Value) : Except Failure Value := do
  let (fraction, whole) := (← v.number?).split
  return .array [.real fraction, .real whole]

/-! ## Lists -/

/-- The last place in a part of a sorted list whose element does not come after a value, or the
first place of the part if there is none.  The part starts at a place and has a size, which a round
halves; the bound is the size. -/
def middle (items : List Value) (wanted : Value) : Nat → (base size : Nat) → Nat
  | 0, base, _ => base
  | n + 1, base, size =>
    if size ≤ 1 then base
    else
      let half := size / 2
      let base' :=
        match (items[base + half]?).map (·.order wanted) with
        | some .gt => base
        | _ => base + half
      middle items wanted n base' (size - half)

/-- The place of a value in a sorted list; if it is not there, minus one minus the place where it
belongs. -/
def searchSorted (v wanted : Value) : Except Failure Value := do
  let items ← v.items?
  let place := middle items wanted items.length 0 items.length
  match (items[place]?).map (·.order wanted) with
  | none => return .int (-1)
  | some .eq => return .int place
  | some .lt => return .int (-2 - place)
  | some .gt => return .int (-1 - place)

/-! ## Regular expressions -/

/-- The settings and the choice of matches with those that a letter stands for. -/
def withFlag? (f : Expression.Settings × Expression.Choice) :
    Char → Option (Expression.Settings × Expression.Choice)
  | 'g' => some (f.1, { f.2 with everywhere := true })
  | 'n' => some (f.1, { f.2 with notEmpty := true })
  | 'i' => some ({ f.1 with anyCase := true }, f.2)
  | 'x' => some ({ f.1 with spaced := true }, f.2)
  | 's' => some ({ f.1 with pointIsAll := true }, f.2)
  | 'l' => some ({ f.1 with shortest := true }, f.2)
  | 'p' => some ({ f.1 with pointIsAll := true }, { f.2 with notEmpty := true })
  | _ => none

/-- The settings and the choice of matches that a text stands for. -/
def flags? (v : Value) : Except Failure (Expression.Settings × Expression.Choice) := do
  let s ← v.string?
  match s.toList.foldlM withFlag? ({}, {}) with
  | some flags => return flags
  | none => throw (.unreadable s "flags")

/-- A part of a match as an object. -/
def ofSpan (span : Expression.Span) : Value :=
  .object ([("offset", ofNat span.start), ("length", ofNat span.text.length),
    ("string", .string (String.ofList span.text))]
    ++ (span.name.map fun name => ("name", Value.string name)).toList)

/-- The matches of a regular expression in a text. -/
def spans? (v pattern flags : Value) : Except Failure (List (List Expression.Span)) := do
  let s ← v.string?
  let p ← pattern.string?
  let (settings, choice) ← flags? flags
  match Expression.read? settings p with
  | some (e, count) =>
    if e.size ≤ Expression.greatestSize then return e.matchesIn count choice s
    else throw (.unreadable p "regular expression")
  | none => throw (.unreadable p "regular expression")

/-- The matches of a regular expression in a text, each as an array of its groups. -/
def matchesOf (v pattern flags : Value) : Except Failure Value := do
  return .array ((← spans? v pattern flags).map fun spans => .array (spans.map ofSpan))

/-- What lies around and within the matches, by turns: texts, and matches as arrays of groups. -/
def between (place : Nat) (rest : List Char) : List (List Expression.Span) → List Value
  | [] => [.string (String.ofList rest)]
  | [] :: more => between place rest more
  | (span :: groups) :: more =>
    let before := rest.take (span.start - place)
    let behind := rest.drop (span.start - place + span.text.length)
    .string (String.ofList before) :: .array ((span :: groups).map ofSpan)
      :: between (span.start + span.text.length) behind more

/-- A text cut into the matches of a regular expression and what lies around them. -/
def cutAt (v pattern flags : Value) : Except Failure Value := do
  return .array (between 0 (← v.string?).toList (← spans? v pattern flags))

/-! ## Times -/

/-- The time that a number of seconds stands for. -/
def time? (v : Value) : Except Failure Time :=
  let exact (t : Option Time) : Except Failure Time :=
    match t with
    | some t => .ok t
    | none => .error (.unreadable v.json "time")
  match v with
  | .int n => exact (Time.ofSeconds? n)
  | _ => do exact (Time.ofMicroseconds? (((← v.number?).mul (.ofInt 1000000)).toWord .toZero))

/-- A number of seconds, an integer or a computed number. -/
def ofTime (fine : Bool) (t : Time) : Value :=
  if fine then .real ((Extended.ofInt t.microseconds).div (.ofInt 1000000)) else .int t.seconds

/-- A time as text.  One that was given as an integer has no fraction. -/
def toDate (v : Value) : Except Failure Value := do
  let t ← v.time?
  match v with
  | .int _ => return .string (String.ofList t.render)
  | _ => return .string (String.ofList t.renderFine)

/-- The number of seconds that a text stands for.  A text with a point stands for a computed one. -/
def fromDate (v : Value) : Except Failure Value := do
  let s ← v.string?
  match Time.read? s.toList with
  | some t => return ofTime (s.toList.contains '.') t
  | none => throw (.unreadable s "time")

/-- A time by its parts: the year, the month from zero, the day, the hour, the minute, the second,
and the days since Sunday and since the start of the year.  The second holds its fraction, if there
is one. -/
def timeParts (t : Time) : Value :=
  let second : Int := t.ofDay % 60
  .array
    [.int t.day.year, .int (t.day.month - 1), .int t.day.day, ofNat (t.ofDay / 3600),
      ofNat (t.ofDay / 60 % 60),
      if t.fraction / 1000 = 0 then .int second
      else .real ((Extended.ofInt second).add
        ((Extended.ofInt (t.fraction / 1000 : Nat)).div (.ofInt 1000000))),
      ofNat t.day.ofWeek, ofNat (t.day.ofYear - 1)]

/-- The time that parts stand for. -/
def timeOfParts? (parts : List Value) : Option Time :=
  match parts with
  | .int year :: .int month :: .int day :: .int hour :: .int minute :: second :: _ => do
    guard (0 ≤ hour ∧ 0 ≤ minute ∧ year.natAbs ≤ Time.lastYear)
    let x ← second.real?
    let whole := x.toWord .down
    let part := (x.sub (.ofInt (x.toWord .toZero))).mul (.ofInt 1000000000)
    guard (0 ≤ whole ∧ whole ≤ 59)
    Time.atDay? ⟨year, month + 1, day⟩ hour.toNat minute.toNat whole.toNat
      (part.toWord .toZero).toNat
  | _ => none

/-- The time that a number or an array of parts stands for. -/
def anyTime? (v : Value) : Except Failure Time :=
  match v with
  | .array parts =>
    match timeOfParts? parts with
    | some t => .ok t
    | none => .error (.unreadable v.json "time")
  | _ => v.time?

/-- The number of seconds that parts stand for. -/
def makeTime (v : Value) : Except Failure Value := do
  match timeOfParts? (← v.items?) with
  | some t => return ofTime (t.fraction / 1000 != 0) t
  | none => throw (.unreadable v.json "time")

/-- A time in a format, as the clocks of a zone tell it. -/
def formatTime (told : Time → TimeFormat.LocalTime) (v format : Value) : Except Failure Value := do
  let t ← v.anyTime?
  let f ← format.string?
  match TimeFormat.items? f with
  | some items => return .string (String.ofList (items.flatMap (TimeFormat.Item.render (told t))))
  | none => throw (.unreadable f "time format")

/-- The parts of the time that a text in a format stands for. -/
def readTime (v format : Value) : Except Failure Value := do
  let s ← v.string?
  let f ← format.string?
  match (TimeFormat.items? f).bind (TimeFormat.read? · s) with
  | some t => return timeParts t
  | none => throw (.unreadable s "time")

/-! ## Surroundings -/

/-- The environment as an object.  A name that stands there twice has its last text. -/
def ofEnvironment (around : Surroundings) : Value :=
  .object (putEntries [] (around.environment.map fun e => (e.1, .string e.2)))

/-- The seconds since the start of 1970.  A clock that has not reached it yet is of no use. -/
def ofClock (around : Surroundings) : Except Failure Value :=
  let t := around.now
  if t.seconds < 0 then .error (.raised (.string "second time provided was later than self"))
  else .ok (.real ((Extended.ofInt t.seconds).add
    ((Extended.ofInt t.fraction).div (.ofInt 1000000000))))

/-- The parts of a time, as the clocks of the place tell it. -/
def localParts (around : Surroundings) (v : Value) : Except Failure Value := do
  return timeParts (around.localTime (← v.time?)).shown

end Value

/-! ## The table -/

/-- A built-in function. -/
structure Native where
  name : String
  /-- The number of arguments. -/
  arity : Nat
  /-- The value for an input and arguments. -/
  run : Surroundings → Value → List Value → Except Failure Value

/-- A function without arguments. -/
def Native.plain (name : String) (f : Value → Except Failure Value) : Native :=
  ⟨name, 0, fun _ v _ => f v⟩

/-- A function with one argument. -/
def Native.withOne (name : String) (f : Value → Value → Except Failure Value) : Native :=
  ⟨name, 1, fun _ v args => f v (args.headD .null)⟩

/-- A function with two arguments. -/
def Native.withTwo (name : String) (f : Value → Value → Value → Except Failure Value) : Native :=
  ⟨name, 2, fun _ v args => f v (args.headD .null) (args.getD 1 .null)⟩

/-- A function with three arguments. -/
def Native.withThree (name : String) (f : Value → Value → Value → Except Failure Value) : Native :=
  ⟨name, 3, fun _ _ args => f (args.headD .null) (args.getD 1 .null) (args.getD 2 .null)⟩

/-- The built-in functions. -/
def natives : List Native :=
  [.plain "length" Value.size,
    .plain "utf8bytelength" fun v => do return .ofNat (← v.string?).utf8ByteSize,
    .plain "keys_unsorted" Value.keys,
    .plain "type" fun v => .ok (.string v.typeWord),
    .plain "tostring" fun v => .ok (.string v.text),
    .plain "tojson" fun v => .ok (.string v.json),
    .plain "fromjson" Value.fromJson,
    .plain "ascii_downcase" (Value.onText String.toLower),
    .plain "ascii_upcase" (Value.onText String.toUpper),
    .plain "trim" (Value.onText fun s => Value.trimBack (Value.trimFront s)),
    .plain "ltrim" (Value.onText Value.trimFront),
    .plain "rtrim" (Value.onText Value.trimBack),
    .plain "explode" Value.explode,
    .plain "implode" Value.implode,
    .plain "reverse" fun v => do return .array (← v.items?).reverse,
    .plain "floor" (Value.rounded .down),
    .plain "ceil" (Value.rounded .up),
    .plain "round" (Value.rounded .halfAway),
    .plain "frexp" Value.fractionAndExponent,
    .plain "modf" Value.fractionAndWhole,
    .plain "ilogb" fun v => do return .int (← v.number?).wholeExponent,
    .withTwo "ldexp" fun _ => Value.timesTwoTo,
    .withTwo "scalbln" fun _ => Value.timesTwoTo,
    .withTwo "jn" fun _ n x => do
      return .real ((← x.number?).machine (Machine.besselJ (← n.smallInt?))),
    .withTwo "yn" fun _ n x => do
      return .real ((← x.number?).machine (Machine.besselY (← n.smallInt?))),
    .withThree "fma" fun x y z => do
      return .real ((← x.number?).multiplyAdd (← y.number?) (← z.number?)),
    .plain "nan" fun _ => .ok (.real .nan),
    .plain "infinite" fun _ => .ok (.real (.infinite false)),
    ⟨"env", 0, fun around _ _ => .ok (.ofEnvironment around)⟩,
    ⟨"now", 0, fun around _ _ => Value.ofClock around⟩,
    .plain "todateiso8601" Value.toDate,
    .plain "fromdateiso8601" Value.fromDate,
    .plain "gmtime" fun v => do return Value.timeParts (← v.time?),
    ⟨"localtime", 0, fun around v _ => v.localParts around⟩,
    .plain "mktime" Value.makeTime,
    .withOne "strftime" (Value.formatTime .atMeridian),
    ⟨"strflocaltime", 1, fun around v args => v.formatTime around.localTime (args.headD .null)⟩,
    .withOne "strptime" Value.readTime,
    .plain "to_entries" Value.toEntries,
    .plain "from_entries" Value.fromEntries,
    .plain "error" fun v => .error (.raised v),
    .withOne "has" Value.has,
    .withOne "contains" fun v w => .ok (.bool (v.contains w)),
    .withOne "indices" Value.indices,
    .withOne "startswith" fun v w => do
      return .bool (stripFront? (← w.string?).toList (← v.string?).toList).isSome,
    .withOne "endswith" fun v w => do
      return .bool
        (stripFront? (← w.string?).toList.reverse (← v.string?).toList.reverse).isSome,
    .withOne "ltrimstr" Value.withoutFront,
    .withOne "rtrimstr" Value.withoutBack,
    .withOne "bsearch" Value.searchSorted,
    .withOne "split" fun v w => do
      return .array ((split (← v.string?) (← w.string?)).map .string),
    .withTwo "matches" Value.matchesOf,
    .withTwo "split_matches" Value.cutAt]
  ++ formatNames.map (fun f => .plain f fun v => do return .string (← formatted f v))
  ++ Extended.functions.map (fun (name, f) =>
      .plain name fun v => do return .real (f (← v.number?)))
  ++ Extended.functions2.map (fun (name, f) =>
      .withTwo name fun _ x y => do return .real (f (← x.number?) (← y.number?)))

/-- The built-in function of a name with so many arguments. -/
def native? (name : String) (arity : Nat) : Option Native :=
  natives.find? fun f => f.name == name && f.arity == arity

end Filter

end BodyCheck
