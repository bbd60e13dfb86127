import BodyCheck.Number.Digits

/-!
# Faults in JSON text

A reader that refuses a text says what is wrong, after how many bytes, and inside which value of
the document it stood.  Bytes are those of the UTF-8 encoding.  A message names the line and the
column: lines count from one, and the column is the number of bytes of that line up to and
including the offending one, so it is zero at the start of a line.
-/

namespace BodyCheck

/-! ## Trails -/

/-- One step from a value down to a part of it. -/
inductive Step where
  /-- The value of a key. -/
  | key (name : String)
  /-- The element at an index. -/
  | element (index : Nat)
  /-- A place where a key should stand. -/
  | unnamed
deriving DecidableEq, Repr

/-- The steps from the root of a document to a value. -/
abbrev Trail := List Step

/-- The text of a step. -/
def Step.render : Step → String
  | .key name => name
  | .element index => "[" ++ decimalText index ++ "]"
  | .unnamed => "?"

/-- The text of the steps that follow another one: a dot stands before all but element steps. -/
def Trail.renderAfter : Trail → String
  | [] => ""
  | .element i :: rest => Step.render (.element i) ++ Trail.renderAfter rest
  | step :: rest => "." ++ step.render ++ Trail.renderAfter rest

/-- The text of a trail.  The empty trail, which names the root, is a dot. -/
def Trail.render : Trail → String
  | [] => "."
  | step :: rest => step.render ++ Trail.renderAfter rest

example : Trail.render [.key "a", .element 0, .element 1, .key "b", .unnamed] = "a[0][1].b.?" := by
  decide

/-! ## Places in a text -/

/-- A line and a column. -/
structure Place where
  line : Nat
  column : Nat
deriving DecidableEq, Repr

/-- The place after `index` bytes of a text that starts `offset` bytes in, on the given line,
which starts at the byte `start`. -/
def Place.after (index : Nat) : List Char → (offset line start : Nat) → Place
  | [], _, line, start => ⟨line, index - start⟩
  | c :: rest, offset, line, start =>
    if index ≤ offset then ⟨line, index - start⟩
    else if c = '\n' then Place.after index rest (offset + 1) (line + 1) (offset + 1)
    else Place.after index rest (offset + c.utf8Size) line start

/-- The place after `index` bytes of a text. -/
def Place.ofIndex (text : List Char) (index : Nat) : Place := Place.after index text 0 1 0

/-- A message with the place it speaks of. -/
def Place.locate (place : Place) (message : String) : String :=
  message ++ " at line " ++ decimalText place.line ++ " column " ++ decimalText place.column

example : Place.ofIndex "é\nab".toList 4 = ⟨2, 1⟩ := by decide
example : Place.ofIndex "é\nab".toList 3 = ⟨2, 0⟩ := by decide
example : Place.ofIndex "é\nab".toList 2 = ⟨1, 2⟩ := by decide

/-! ## What can be wrong -/

/-- Why a text is not JSON. -/
inductive SyntaxError where
  | unfinishedValue
  | unfinishedList
  | unfinishedObject
  | unfinishedString
  | missingColon
  | missingListComma
  | missingObjectComma
  | wrongWord
  | missingValue
  | wrongEscape
  | wrongNumber
  | numberOutOfRange
  | controlCharacter
  | missingKey
  | loneSurrogate
  | unfinishedSurrogate
  | trailingComma
  | trailingText
  | nestedTooDeep
deriving DecidableEq, Repr

/-- The wording of an error. -/
def SyntaxError.message : SyntaxError → String
  | .unfinishedValue => "EOF while parsing a value"
  | .unfinishedList => "EOF while parsing a list"
  | .unfinishedObject => "EOF while parsing an object"
  | .unfinishedString => "EOF while parsing a string"
  | .missingColon => "expected `:`"
  | .missingListComma => "expected `,` or `]`"
  | .missingObjectComma => "expected `,` or `\x7d`"
  | .wrongWord => "expected ident"
  | .missingValue => "expected value"
  | .wrongEscape => "invalid escape"
  | .wrongNumber => "invalid number"
  | .numberOutOfRange => "number out of range"
  | .controlCharacter => "control character (\\u0000-\\u001F) found while parsing a string"
  | .missingKey => "key must be a string"
  | .loneSurrogate => "lone leading surrogate in hex escape"
  | .unfinishedSurrogate => "unexpected end of hex escape"
  | .trailingComma => "trailing comma"
  | .trailingText => "trailing characters"
  | .nestedTooDeep => "recursion limit exceeded"

/-- An error, the number of bytes up to and including the offending one, and the trail of the
value the reader stood in. -/
structure Fault where
  error : SyntaxError
  index : Nat
  trail : Trail := []
deriving DecidableEq, Repr

/-- The same fault, seen from one step further up. -/
def Fault.under (step : Step) (f : Fault) : Fault := { f with trail := step :: f.trail }

/-- The message for a fault in a text. -/
def Fault.message (text : List Char) (f : Fault) : String :=
  (Place.ofIndex text f.index).locate f.error.message

end BodyCheck
