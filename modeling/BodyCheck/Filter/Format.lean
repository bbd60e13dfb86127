import BodyCheck.Filter.Access

/-!
# Formats of filters

The formats that a filter can write values in: plain text, JSON, markup, addresses, rows of fields,
shell words and base 64.
-/

namespace BodyCheck

namespace Filter

/-! ## Bytes -/

/-- The bytes of a text. -/
def bytesOf (s : String) : List Nat := s.toUTF8.toList.map UInt8.toNat

/-- The text of bytes, if they encode one. -/
def ofBytes? (bytes : List Nat) : Option String :=
  String.fromUTF8? (ByteArray.mk (bytes.map UInt8.ofNat).toArray)

/-! ## Base 64 -/

/-- The signs for the numbers below 64. -/
def signs64 : List Char :=
  "ABCDEFGHIJKLMNOPQRSTUVWXYZabcdefghijklmnopqrstuvwxyz0123456789+/".toList

/-- The sign for a number below 64. -/
def sign64 (n : Nat) : Char := signs64.getD (n % 64) 'A'

/-- The number of a sign. -/
def number64? (ch : Char) : Option Nat :=
  let n := signs64.idxOf ch
  if n < 64 then some n else none

/-- Bytes in base 64. -/
def encode64 : List Nat → List Char
  | [] => []
  | [a] => [sign64 (a / 4), sign64 (a * 16), '=', '=']
  | [a, b] => [sign64 (a / 4), sign64 (a * 16 + b / 16), sign64 (b * 4), '=']
  | a :: b :: c :: rest =>
    sign64 (a / 4) :: sign64 (a * 16 + b / 16) :: sign64 (b * 4 + c / 64) :: sign64 c
      :: encode64 rest

/-- The bytes of a text in base 64 with padding.  Bits that are left over are zero. -/
def decode64? : List Char → Option (List Nat)
  | [] => some []
  | [a, b, '=', '='] => do
    let a ← number64? a
    let b ← number64? b
    if b % 16 = 0 then return [a * 4 + b / 16] else none
  | [a, b, c, '='] => do
    let a ← number64? a
    let b ← number64? b
    let c ← number64? c
    if c % 4 = 0 then return [a * 4 + b / 16, b % 16 * 16 + c / 4] else none
  | a :: b :: c :: d :: rest => do
    let a ← number64? a
    let b ← number64? b
    let c ← number64? c
    let d ← number64? d
    return (a * 4 + b / 16) :: (b % 16 * 16 + c / 4) :: (c % 4 * 64 + d) :: (← decode64? rest)
  | _ => none

/-! ## Characters -/

/-- A character in markup. -/
def markupChar (ch : Char) : List Char :=
  match ch with
  | '<' => "&lt;".toList
  | '>' => "&gt;".toList
  | '&' => "&amp;".toList
  | '\'' => "&#39;".toList
  | '"' => "&quot;".toList
  | _ => [ch]

/-- A hexadecimal digit, in upper case. -/
def upperHex (n : Nat) : Char := (Json.hexDigit n).toUpper

/-- A byte in an address. -/
def addressByte (b : Nat) : List Char :=
  let ch := Char.ofNat b
  if b < 128 && (ch.isAlphanum || ch == '-' || ch == '_' || ch == '.' || ch == '~') then [ch]
  else ['%', upperHex (b / 16), upperHex (b % 16)]

/-- A character in a field of a row between tabs. -/
def tabChar (ch : Char) : List Char :=
  match ch with
  | '\\' => ['\\', '\\']
  | '\t' => ['\\', 't']
  | '\r' => ['\\', 'r']
  | '\n' => ['\\', 'n']
  | _ => [ch]

/-- A quote is written twice inside a quoted field. -/
def fieldChar (ch : Char) : List Char := if ch = '"' then ['"', '"'] else [ch]

/-- A single quote inside a word is put between two words. -/
def shellChar (ch : Char) : List Char := if ch = '\'' then "'\\''".toList else [ch]

/-- A text with every character replaced. -/
def replaceChars (f : Char → List Char) (s : String) : String :=
  String.ofList (s.toList.flatMap f)

/-! ## Formats -/

/-- A field of a row; containers are none. -/
def rowField (quote : String → String) (v : Value) : Except Failure String :=
  match v with
  | .null => .ok ""
  | .string s => .ok (quote s)
  | .array _ | .object _ => .error (.role v .string)
  | v => .ok v.json

/-- The elements or entries of a value as the fields of a row, with something between them. -/
def row (quote : String → String) (between : String) (v : Value) : Except Failure String := do
  return between.intercalate (← (← v.children).mapM (rowField quote))

/-- A word for a shell; objects are none. -/
def shellWord (v : Value) : Except Failure String :=
  match v with
  | .string s => .ok ("'" ++ replaceChars shellChar s ++ "'")
  | .array _ | .object _ => .error (.role v .string)
  | v => .ok v.json

/-- Words for a shell. -/
def shell (v : Value) : Except Failure String :=
  match v with
  | .array items => do return " ".intercalate (← items.mapM shellWord)
  | v => shellWord v

/-- The text in base 64 that a value stands for. -/
def fromBase64 (v : Value) : Except Failure String :=
  match (decode64? v.text.toList).bind ofBytes? with
  | some s => .ok s
  | none => .error (.unreadable v.text "base64")

/-- A value in a format. -/
def formatted (format : String) (v : Value) : Except Failure String :=
  match format with
  | "@text" => .ok v.text
  | "@json" => .ok v.json
  | "@html" => .ok (replaceChars markupChar v.text)
  | "@uri" => .ok (String.ofList ((bytesOf v.text).flatMap addressByte))
  | "@csv" => row (fun s => "\"" ++ replaceChars fieldChar s ++ "\"") "," v
  | "@tsv" => row (replaceChars tabChar) "\t" v
  | "@sh" => shell v
  | "@base64" => .ok (String.ofList (encode64 (bytesOf v.text)))
  | "@base64d" => fromBase64 v
  | _ => .error (.unreadable format "format")

/-- The names of the formats. -/
def formatNames : List String :=
  ["@text", "@json", "@html", "@uri", "@csv", "@tsv", "@sh", "@base64", "@base64d"]

end Filter

end BodyCheck
