import BodyCheck.Json.Basic
import BodyCheck.Number.Layout

/-!
# Writing JSON

Two forms of a value as text.  The compact form (`Json.render`) has no blanks.  The pretty form
(`Json.renderPretty`) has one element or entry on a line, indented by two blanks for every container
that is open; a container without children stays on one line in both.

A string escapes the quote, the backslash and the control characters below the blank, and nothing
else.
-/

namespace BodyCheck

namespace Json

/-! ## Strings -/

/-- A hexadecimal digit, in lower case. -/
def hexDigit (n : Nat) : Char :=
  if n < 10 then Char.ofNat ('0'.toNat + n) else Char.ofNat ('a'.toNat + (n - 10))

/-- A character inside a string. -/
def escapeChar (ch : Char) : List Char :=
  match ch with
  | '"' => ['\\', '"']
  | '\\' => ['\\', '\\']
  | '\x08' => ['\\', 'b']
  | '\x0c' => ['\\', 'f']
  | '\n' => ['\\', 'n']
  | '\r' => ['\\', 'r']
  | '\t' => ['\\', 't']
  | _ =>
    if ch < ' ' then ['\\', 'u', '0', '0', hexDigit (ch.toNat / 16), hexDigit (ch.toNat % 16)]
    else [ch]

/-- The characters inside a string, one after the other. -/
def escapeChars : List Char → List Char
  | [] => []
  | ch :: rest => escapeChar ch ++ escapeChars rest

/-- A string between quotes. -/
def quoted (s : String) : List Char := '"' :: escapeChars s.toList ++ ['"']

/-! ## Numbers -/

/-- A whole number in decimal digits, with a minus sign if it is negative. -/
def integerText (n : Int) : List Char :=
  (if n < 0 then ['-'] else []) ++ decimalDigits n.natAbs

/-- A number. -/
def numberText : Number → List Char
  | .integer n => integerText n
  | .double d => d.render .json

/-! ## The compact form -/

mutual

/-- A value in compact form. -/
def render : Json → List Char
  | .null => ['n', 'u', 'l', 'l']
  | .bool true => ['t', 'r', 'u', 'e']
  | .bool false => ['f', 'a', 'l', 's', 'e']
  | .number n => numberText n
  | .string s => quoted s
  | .array items => '[' :: renderItems items
  | .object entries => '{' :: renderEntries entries

/-- The elements of an array, from the first one to the closing bracket. -/
def renderItems : List Json → List Char
  | [] => [']']
  | v :: rest => v.render ++ renderMoreItems rest

/-- The elements after another one. -/
def renderMoreItems : List Json → List Char
  | [] => [']']
  | v :: rest => ',' :: (v.render ++ renderMoreItems rest)

/-- The entries of an object, from the first one to the closing brace. -/
def renderEntries : List (String × Json) → List Char
  | [] => ['}']
  | (k, v) :: rest => quoted k ++ ':' :: (v.render ++ renderMoreEntries rest)

/-- The entries after another one. -/
def renderMoreEntries : List (String × Json) → List Char
  | [] => ['}']
  | (k, v) :: rest => ',' :: (quoted k ++ ':' :: (v.render ++ renderMoreEntries rest))

end

/-- The compact form as a string. -/
def text (v : Json) : String := String.ofList v.render

/-! ## The pretty form -/

/-- The start of a line inside so many open containers. -/
def newLine (level : Nat) : List Char := '\n' :: List.replicate (2 * level) ' '

mutual

/-- A value in pretty form, inside so many open containers. -/
def renderPretty (level : Nat) : Json → List Char
  | .null => ['n', 'u', 'l', 'l']
  | .bool true => ['t', 'r', 'u', 'e']
  | .bool false => ['f', 'a', 'l', 's', 'e']
  | .number n => numberText n
  | .string s => quoted s
  | .array [] => ['[', ']']
  | .array (v :: rest) =>
    '[' :: (newLine (level + 1) ++ v.renderPretty (level + 1) ++ prettyItems level rest)
  | .object [] => ['{', '}']
  | .object ((k, v) :: rest) =>
    '{' :: (newLine (level + 1) ++ quoted k ++ ':' :: ' ' :: v.renderPretty (level + 1)
      ++ prettyEntries level rest)

/-- The elements after another one, of an array inside so many open containers. -/
def prettyItems (level : Nat) : List Json → List Char
  | [] => newLine level ++ [']']
  | v :: rest =>
    ',' :: (newLine (level + 1) ++ v.renderPretty (level + 1) ++ prettyItems level rest)

/-- The entries after another one, of an object inside so many open containers. -/
def prettyEntries (level : Nat) : List (String × Json) → List Char
  | [] => newLine level ++ ['}']
  | (k, v) :: rest =>
    ',' :: (newLine (level + 1) ++ quoted k ++ ':' :: ' ' :: v.renderPretty (level + 1)
      ++ prettyEntries level rest)

end

/-- The pretty form as a string. -/
def prettyText (v : Json) : String := String.ofList (v.renderPretty 0)

/-! ## Sample values -/

example : quoted "a\"\x01\n" = "\"a\\\"\\u0001\\n\"".toList := by decide

example : render (.object [("a", .array [.null, .bool true]), ("b", .number (.integer (-12)))])
    = "\x7b\"a\":[null,true],\"b\":-12\x7d".toList := by decide

example : renderPretty 0 (.array [.array [], .array [.null]])
    = "[\n  [],\n  [\n    null\n  ]\n]".toList := by decide

end Json

end BodyCheck
