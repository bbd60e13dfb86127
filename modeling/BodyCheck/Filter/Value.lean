import BodyCheck.Json.Printer
import BodyCheck.Number.Extended

/-!
# Values of filters

What a filter computes with.  A whole number that fits in 64 bits with a sign is an integer.  Any
other number that was written down, in the document or in the filter, is kept as its text until
something is computed from it; a computed number that is no integer is an extended double.

Numbers are ordered by value, whatever they are stored as.  Between kinds, null comes first, then
false, true, numbers, strings, arrays and objects.
-/

namespace BodyCheck

namespace Filter

/-- A value of a filter. -/
inductive Value where
  | null
  | bool (b : Bool)
  /-- A whole number of 64 bits with a sign. -/
  | int (n : Int)
  /-- A computed number. -/
  | real (x : Extended)
  /-- A number as it was written. -/
  | numeral (text : String)
  | string (s : String)
  | array (items : List Value)
  | object (entries : List (String × Value))
deriving Repr, Inhabited

/-! ## Numbers -/

/-- A whole number is an integer if it fits. -/
def fits (n : Int) : Bool := -(Nat.pow 2 63 : Int) ≤ n && n < (Nat.pow 2 63 : Int)

/-- The digits, the fraction digits and the exponent of a numeral without a sign. -/
def splitNumeral (text : List Char) : List Char × List Char × Int :=
  let whole := text.takeWhile Char.isDigit
  let rest := text.dropWhile Char.isDigit
  let (fraction, rest) :=
    match rest with
    | '.' :: rest => (rest.takeWhile Char.isDigit, rest.dropWhile Char.isDigit)
    | _ => ([], rest)
  let exponent : Int :=
    match rest with
    | _ :: '-' :: digits => -(digitsValue (digits.takeWhile Char.isDigit) : Int)
    | _ :: '+' :: digits => digitsValue (digits.takeWhile Char.isDigit)
    | _ :: digits => digitsValue (digits.takeWhile Char.isDigit)
    | [] => 0
  (whole, fraction, exponent)

/-- The number nearest to a numeral. -/
def realOfNumeral (text : String) : Extended :=
  let read (chars : List Char) : Extended :=
    let (whole, fraction, exponent) := splitNumeral chars
    Extended.ofDecimal (digitsValue (whole ++ fraction)) (exponent - fraction.length)
  match text.toList with
  | '-' :: rest => (read rest).neg
  | chars => read chars

/-- The value of a numeral: an integer if it is written as one and fits. -/
def Value.ofNumeral (text : String) : Value :=
  let (negative, digits) :=
    match text.toList with
    | '-' :: rest => (true, rest)
    | chars => (false, chars)
  let n : Int := if negative then -(digitsValue digits : Int) else digitsValue digits
  if isDigits digits && fits n then .int n else .numeral text

/-! ## Documents -/

mutual

/-- A value of a document. -/
def Value.ofJson : Json → Value
  | .null => .null
  | .bool b => .bool b
  | .number n => .ofNumeral (String.ofList (Json.numberText n))
  | .string s => .string s
  | .array items => .array (ofJsonItems items)
  | .object entries => .object (ofJsonEntries entries)

/-- The elements of an array of a document. -/
def ofJsonItems : List Json → List Value
  | [] => []
  | v :: rest => Value.ofJson v :: ofJsonItems rest

/-- The entries of an object of a document. -/
def ofJsonEntries : List (String × Json) → List (String × Value)
  | [] => []
  | (k, v) :: rest => (k, Value.ofJson v) :: ofJsonEntries rest

end

/-- A character inside a string.  Blanks other than the plain one have their letters; the other
control characters, the last one of ASCII included, have their numbers. -/
def escapeChar (ch : Char) : List Char :=
  match ch with
  | '"' => ['\\', '"']
  | '\\' => ['\\', '\\']
  | '\n' => ['\\', 'n']
  | '\r' => ['\\', 'r']
  | '\t' => ['\\', 't']
  | _ =>
    if ch < ' ' ∨ ch = '\x7f' then
      ['\\', 'u', '0', '0', Json.hexDigit (ch.toNat / 16), Json.hexDigit (ch.toNat % 16)]
    else [ch]

/-- A string between quotes. -/
def quoted (s : String) : List Char := '"' :: s.toList.flatMap escapeChar ++ ['"']

/-- A computed number as text.  Only finite ones have a text of their own. -/
def realText : Extended → List Char
  | .finite d => d.render Extended.layout
  | _ => ['n', 'u', 'l', 'l']

mutual

/-- A value as JSON text. -/
def Value.render : Value → List Char
  | .null => ['n', 'u', 'l', 'l']
  | .bool b => if b then ['t', 'r', 'u', 'e'] else ['f', 'a', 'l', 's', 'e']
  | .int n => Json.integerText n
  | .real x => realText x
  | .numeral text => text.toList
  | .string s => quoted s
  | .array items => '[' :: renderItems items
  | .object entries => '{' :: renderEntries entries

/-- The elements of an array, from the first one to the closing bracket. -/
def renderItems : List Value → List Char
  | [] => [']']
  | v :: rest => v.render ++ renderMoreItems rest

/-- The elements after another one. -/
def renderMoreItems : List Value → List Char
  | [] => [']']
  | v :: rest => ',' :: (v.render ++ renderMoreItems rest)

/-- The entries of an object, from the first one to the closing brace. -/
def renderEntries : List (String × Value) → List Char
  | [] => ['}']
  | (k, v) :: rest => quoted k ++ ':' :: (v.render ++ renderMoreEntries rest)

/-- The entries after another one. -/
def renderMoreEntries : List (String × Value) → List Char
  | [] => ['}']
  | (k, v) :: rest => ',' :: (quoted k ++ ':' :: (v.render ++ renderMoreEntries rest))

end

namespace Value

/-- The JSON text of a value. -/
def json (v : Value) : String := String.ofList v.render

/-- The text of a value: a string is its own. -/
def text : Value → String
  | .string s => s
  | v => v.json

/-- Null and false do not hold, everything else does. -/
def holds : Value → Bool
  | .null | .bool false => false
  | _ => true

/-- The word for the kind of a value. -/
def typeWord : Value → String
  | .null => "null"
  | .bool _ => "boolean"
  | .int _ | .real _ | .numeral _ => "number"
  | .string _ => "string"
  | .array _ => "array"
  | .object _ => "object"

/-- The number that a value is. -/
def real? : Value → Option Extended
  | .int n => some (.ofInt n)
  | .real x => some x
  | .numeral text => some (realOfNumeral text)
  | _ => none

/-! ## Order -/

/-- The place of a kind among all kinds. -/
def kindRank : Value → Nat
  | .null => 0
  | .bool false => 1
  | .bool true => 2
  | .int _ | .real _ | .numeral _ => 3
  | .string _ => 4
  | .array _ => 5
  | .object _ => 6

/-- The order of numbers. -/
def compareNumbers (a b : Value) : Ordering :=
  match a, b with
  | .int m, .int n => compare m n
  | _, _ =>
    match a.real?, b.real? with
    | some x, some y => x.compare y
    | _, _ => .eq

/-- The order of texts, by code points. -/
def compareTexts (a b : String) : Ordering :=
  if a < b then .lt else if b < a then .gt else .eq

/-- An entry put into entries that are sorted by key. -/
def insertSorted (entry : String × Value) : List (String × Value) → List (String × Value)
  | [] => [entry]
  | e :: rest => if entry.1 < e.1 then entry :: e :: rest else e :: insertSorted entry rest

/-- Entries sorted by key. -/
def sortEntries (entries : List (String × Value)) : List (String × Value) :=
  entries.foldr insertSorted []

/-- The order of lists, by the first difference. -/
def compareLists {α : Type} (cmp : α → α → Ordering) : List α → List α → Ordering
  | [], [] => .eq
  | [], _ :: _ => .lt
  | _ :: _, [] => .gt
  | a :: as, b :: bs => (cmp a b).then (compareLists cmp as bs)

/-- The order of values whose nesting does not exceed the bound. -/
def compareWithin : Nat → Value → Value → Ordering
  | 0, _, _ => .eq
  | n + 1, a, b =>
    match a, b with
    | .string s, .string t => compareTexts s t
    | .array as, .array bs => compareLists (compareWithin n) as bs
    | .object as, .object bs =>
      let as := sortEntries as
      let bs := sortEntries bs
      (compare (!as.isEmpty).toNat (!bs.isEmpty).toNat).then <|
        (compareLists compareTexts (as.map (·.1)) (bs.map (·.1))).then <|
          compareLists (compareWithin n) (as.map (·.2)) (bs.map (·.2))
    | _, _ =>
      if a.kindRank = 3 ∧ b.kindRank = 3 then compareNumbers a b
      else compare a.kindRank b.kindRank

mutual

/-- The depth of nesting of a value, at least one. -/
def depth : Value → Nat
  | .array items => depthItems items + 1
  | .object entries => depthEntries entries + 1
  | _ => 1

/-- The greatest depth among elements. -/
def depthItems : List Value → Nat
  | [] => 0
  | v :: rest => max v.depth (depthItems rest)

/-- The greatest depth among entries. -/
def depthEntries : List (String × Value) → Nat
  | [] => 0
  | (_, v) :: rest => max v.depth (depthEntries rest)

end

/-- The order of values. -/
def order (a b : Value) : Ordering := compareWithin (max a.depth b.depth) a b

/-- The values are equal. -/
def same (a b : Value) : Bool := a.order b == .eq

/-- The first value comes before the second one. -/
def before (a b : Value) : Bool := a.order b == .lt

/-- Values in their order; equal ones stay in the order in which they stood. -/
def sortOn {α : Type} (key : α → Value) (l : List α) : List α :=
  l.mergeSort fun a b => (key a).order (key b) != .gt

end Value

end Filter

end BodyCheck
