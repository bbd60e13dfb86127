import BodyCheck.Json.Fault

/-!
# Cursors

A cursor stands somewhere in a text: it holds what is left of the text and how many bytes lie
before it.  A fault is raised either *here*, after the bytes already read, or *ahead*, at the next
byte, which counts as offending unless the text is at its end.
-/

namespace BodyCheck

/-- A place in a text that is being read. -/
structure Cursor where
  /-- What is left of the text. -/
  rest : List Char
  /-- How many bytes lie before it. -/
  offset : Nat
deriving DecidableEq, Repr

/-- A reader takes something off the front of a text, or says what is wrong. -/
abbrev Reader (α : Type) := Cursor → Except Fault (α × Cursor)

namespace Cursor

/-- The cursor at the start of a text. -/
def start (text : List Char) : Cursor := ⟨text, 0⟩

/-- An error after the bytes already read. -/
def here {α : Type} (c : Cursor) (e : SyntaxError) : Except Fault α := .error ⟨e, c.offset, []⟩

/-- An error one byte after those already read. -/
def beyond {α : Type} (c : Cursor) (e : SyntaxError) : Except Fault α :=
  .error ⟨e, c.offset + 1, []⟩

/-- An error at the next byte, or at the end of the text. -/
def ahead {α : Type} (c : Cursor) (e : SyntaxError) : Except Fault α :=
  match c.rest with
  | [] => c.here e
  | _ :: _ => c.beyond e

/-- The characters that may stand between the parts of a JSON text. -/
def isBlank (ch : Char) : Bool := ch == ' ' || ch == '\n' || ch == '\t' || ch == '\r'

/-- The place after the blanks at the front of what is left.  A blank is one byte. -/
def skipBlanksFrom : List Char → Nat → Cursor
  | [], offset => ⟨[], offset⟩
  | ch :: rest, offset =>
    if isBlank ch then skipBlanksFrom rest (offset + 1) else ⟨ch :: rest, offset⟩

/-- The place after the blanks. -/
def skipBlanks (c : Cursor) : Cursor := skipBlanksFrom c.rest c.offset

/-- The number of bytes of a text. -/
def byteLength : List Char → Nat
  | [] => 0
  | ch :: rest => ch.utf8Size + byteLength rest

/-- Reads the given ASCII letters, one after the other. -/
def letters : List Char → Cursor → Except Fault Cursor
  | [], c => .ok c
  | l :: ls, c =>
    match c.rest with
    | [] => c.here .unfinishedValue
    | ch :: rest => if ch = l then letters ls ⟨rest, c.offset + 1⟩ else c.beyond .wrongWord

/-- The decimal digits at the front of a text, and what follows them. -/
def spanDigits : List Char → List Char × List Char
  | [] => ([], [])
  | ch :: rest =>
    if ch.isDigit then
      let (digits, after) := spanDigits rest
      (ch :: digits, after)
    else ([], ch :: rest)

/-- Moves a fault one step down the trail of the value it arose in. -/
def under {α : Type} (step : Step) : Except Fault α → Except Fault α
  | .ok a => .ok a
  | .error f => .error (f.under step)

end Cursor

end BodyCheck
