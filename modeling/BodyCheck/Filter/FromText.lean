import BodyCheck.Filter.Arithmetic
import BodyCheck.Json.Reader

/-!
# Values from JSON text

`Value.ofText?` reads a value from the JSON text of a string.  A number is kept as it is written, so
nothing is rounded and nothing is out of range, and containers may be nested to any depth.  A key
that occurs again has its first place and its last value.

The readers take characters from the front of a text and return what is left.  Their bound is the
length of the text, since every value takes at least one character.
-/

namespace BodyCheck

namespace Filter

namespace Value

/-- A text without the blanks at its front. -/
def skipBlanks (s : List Char) : List Char := s.dropWhile Cursor.isBlank

/-- Digits behind a mark, if the mark is there. -/
def markedDigits (mark : List Char) (s : List Char) : Option (List Char × List Char) :=
  let (digits, rest) := Cursor.spanDigits s
  if digits.isEmpty then none else some (mark ++ digits, rest)

/-- The fraction of a numeral, if there is one. -/
def fractionPart : List Char → Option (List Char × List Char)
  | '.' :: s => markedDigits ['.'] s
  | s => some ([], s)

/-- The exponent of a numeral, if there is one. -/
def exponentPart : List Char → Option (List Char × List Char)
  | mark :: s =>
    if mark = 'e' ∨ mark = 'E' then
      match s with
      | '+' :: s => markedDigits [mark, '+'] s
      | '-' :: s => markedDigits [mark, '-'] s
      | s => markedDigits [mark] s
    else some ([], mark :: s)
  | [] => some ([], [])

/-- A numeral without a sign at the front of a text.  Only zero begins with a zero. -/
def numeralPart (s : List Char) : Option (List Char × List Char) := do
  let (whole, rest) ←
    match s with
    | '0' :: rest => some (['0'], rest)
    | _ => markedDigits [] s
  let (fraction, rest) ← fractionPart rest
  let (exponent, rest) ← exponentPart rest
  return (whole ++ fraction ++ exponent, rest)

/-- What follows a word. -/
def afterWord? : List Char → List Char → Option (List Char) := stripFront?

mutual

/-- A value at the front of a text. -/
def valuePart : Nat → List Char → Option (Value × List Char)
  | 0, _ => none
  | n + 1, s =>
    match skipBlanks s with
    | 'n' :: rest => do return (.null, ← afterWord? ['u', 'l', 'l'] rest)
    | 't' :: rest => do return (.bool true, ← afterWord? ['r', 'u', 'e'] rest)
    | 'f' :: rest => do return (.bool false, ← afterWord? ['a', 'l', 's', 'e'] rest)
    | '"' :: rest =>
      match Json.stringPart (.start rest) with
      | .ok (s, c) => some (.string s, c.rest)
      | .error _ => none
    | '-' :: rest => do
      let (digits, rest) ← numeralPart rest
      return (.ofNumeral (String.ofList ('-' :: digits)), rest)
    | '[' :: rest =>
      match skipBlanks rest with
      | ']' :: rest => some (.array [], rest)
      | rest => do
        let (items, rest) ← itemsPart n rest
        return (.array items, rest)
    | '{' :: rest =>
      match skipBlanks rest with
      | '}' :: rest => some (.object [], rest)
      | rest => do
        let (entries, rest) ← entriesPart n rest
        return (.object (putEntries [] entries), rest)
    | rest => do
      let (digits, rest) ← numeralPart rest
      return (.ofNumeral (String.ofList digits), rest)

/-- The elements of an array, from the first one to the closing bracket. -/
def itemsPart : Nat → List Char → Option (List Value × List Char)
  | 0, _ => none
  | n + 1, s => do
    let (v, rest) ← valuePart n s
    match skipBlanks rest with
    | ']' :: rest => return ([v], rest)
    | ',' :: rest =>
      let (more, rest) ← itemsPart n rest
      return (v :: more, rest)
    | _ => none

/-- The entries of an object, from the first one to the closing brace. -/
def entriesPart : Nat → List Char → Option (List (String × Value) × List Char)
  | 0, _ => none
  | n + 1, s => do
    let (key, rest) ← valuePart n s
    match key, skipBlanks rest with
    | .string key, ':' :: rest =>
      let (v, rest) ← valuePart n rest
      match skipBlanks rest with
      | '}' :: rest => return ([(key, v)], rest)
      | ',' :: rest =>
        let (more, rest) ← entriesPart n rest
        return ((key, v) :: more, rest)
      | _ => none
    | _, _ => none

end

/-- The value that a JSON text stands for. -/
def ofText? (s : String) : Option Value := do
  let (v, rest) ← valuePart (2 * s.length + 2) s.toList
  if (skipBlanks rest).isEmpty then return v else none

example : (ofText? " [1.50, -0]").map Value.json = some "[1.50,0]" := by decide +kernel
example : (ofText? "01").isNone := by decide +kernel

end Value

end Filter

end BodyCheck
