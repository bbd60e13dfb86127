import BodyCheck.Json.Basic
import BodyCheck.Json.Cursor
import BodyCheck.Number.Digits

/-!
# Reading JSON

`Json.read` reads a document: one value, with blanks around it.  At most 127 containers may be
open at a time.  A value is read as it is written, with repeated keys; `Json.read` merges them at
the end.

Whole numbers that fit in 64 bits are stored as they are.  Any other number is stored as a double,
which is not always the nearest one.  The digits are gathered into a significand as long as it
stays below `2 ^ 64`.  The significand is rounded to a double and then multiplied or divided by a
power of ten, with a second rounding (`Double.timesTenTo`).

The loops over elements and members take the number of characters that are left as a bound.  Every
round reads at least one, so nothing is left where the bound ends, and the answer given there is
the one for the end of the text.
-/

namespace BodyCheck

/-! ## Decimal powers -/

/-- The double nearest to a power of ten.  There is one up to the exponent 308. -/
def Double.tenTo (n : Nat) : Option Double := Double.ofNat? (Nat.pow 10 n)

/-- The greatest power of ten that a double can be multiplied with or divided by at once. -/
def Double.greatestTen : Option Double := Double.tenTo 308

/-- A double divided so many times by `10 ^ 308`. -/
def Double.overGreatestTen : Nat → Double → Option Double
  | 0, d => some d
  | n + 1, d =>
    if d.isZero then some d
    else (Double.greatestTen.bind d.div?).bind (Double.overGreatestTen n)

/-- A double over a power of ten, divided by at most `10 ^ 308` at a time. -/
def Double.overTenTo (d : Double) (n : Nat) : Option Double :=
  let times := (n - 1) / 308
  (Double.overGreatestTen times d).bind fun d => (Double.tenTo (n - times * 308)).bind d.div?

/-- A double times a power of ten.  There is none if the result is too large. -/
def Double.timesTenTo (d : Double) (e : Int) : Option Double :=
  if e < 0 then d.overTenTo e.natAbs
  else if e ≤ 308 then (Double.tenTo e.natAbs).bind d.mul?
  else if d.isZero then some d
  else none

namespace Json

/-! ## Numbers -/

/-- Digits appended to a significand as long as it stays below `2 ^ 64`, and the number of digits
that were left over. -/
def gather (significand : Nat) : List Char → Nat × Nat
  | [] => (significand, 0)
  | ch :: rest =>
    let next := significand * 10 + digitValue ch
    if next < Nat.pow 2 64 then gather next rest else (significand, rest.length + 1)

/-- A double with a sign, read up to the given place.  One that is too large is a fault there. -/
def signed (negative : Bool) (c : Cursor) : Option Double → Except Fault (Number × Cursor)
  | none => c.here .numberOutOfRange
  | some d => .ok (.double { d with negative }, c)

/-- The number `significand * 10 ^ exponent`, stored as a double. -/
def scaled (negative : Bool) (significand : Nat) (exponent : Int) (c : Cursor) :
    Except Fault (Number × Cursor) :=
  signed negative c ((Double.ofNat? significand).bind (·.timesTenTo exponent))

/-- The exponents that are not read to their end lie above this one. -/
def greatestExponent : Nat := Nat.pow 2 31 - 1

/-- The digits of an exponent that keep it within bounds, one after the other.  The first digit
that does not is returned with the place after it. -/
def exponentDigits (value : Nat) : List Char → Nat → Nat × Option Nat
  | [], _ => (value, none)
  | ch :: rest, offset =>
    let next := value * 10 + digitValue ch
    if next ≤ greatestExponent then exponentDigits next rest (offset + 1)
    else (value, some (offset + 1))

/-- Reads the digits of an exponent, after its sign. -/
def exponentValue (negative : Bool) (significand : Nat) (exponent : Int) (minus : Bool)
    (c : Cursor) : Except Fault (Number × Cursor) :=
  match c.rest with
  | [] => c.here .unfinishedValue
  | ch :: _ =>
    if ch.isDigit then
      let (digits, rest) := Cursor.spanDigits c.rest
      let c' : Cursor := ⟨rest, c.offset + digits.length⟩
      match exponentDigits 0 digits c.offset with
      | (e, none) => scaled negative significand (if minus then exponent - e else exponent + e) c'
      | (_, some offset) =>
        if significand ≠ 0 ∧ !minus then .error ⟨.numberOutOfRange, offset, []⟩
        else .ok (.double (.zero negative), c')
    else c.beyond .wrongNumber

/-- Reads an exponent, after the letter that opens it. -/
def exponentPart (negative : Bool) (significand : Nat) (exponent : Int) (c : Cursor) :
    Except Fault (Number × Cursor) :=
  match c.rest with
  | '+' :: rest => exponentValue negative significand exponent false ⟨rest, c.offset + 1⟩
  | '-' :: rest => exponentValue negative significand exponent true ⟨rest, c.offset + 1⟩
  | _ => exponentValue negative significand exponent false c

/-- Reads with the first reader behind the letter of an exponent, and with the second one where
there is none. -/
def exponentOr (exponent plain : Reader Number) (c : Cursor) : Except Fault (Number × Cursor) :=
  match c.rest with
  | 'e' :: rest | 'E' :: rest => exponent ⟨rest, c.offset + 1⟩
  | _ => plain c

/-- Reads a fraction, after the point. -/
def fractionPart (negative : Bool) (significand : Nat) (exponent : Int) (c : Cursor) :
    Except Fault (Number × Cursor) :=
  let (digits, rest) := Cursor.spanDigits c.rest
  if digits.isEmpty then
    match c.rest with
    | [] => c.here .unfinishedValue
    | _ :: _ => c.beyond .wrongNumber
  else
    let (significand, left) := gather significand digits
    let exponent := exponent - (digits.length - left : Nat)
    exponentOr (exponentPart negative significand exponent) (scaled negative significand exponent)
      ⟨rest, c.offset + digits.length⟩

/-- A whole number whose digits all fit in 64 bits.  Minus zero and what lies below `-2 ^ 63` are
stored as doubles. -/
def whole (negative : Bool) (magnitude : Nat) (c : Cursor) : Except Fault (Number × Cursor) :=
  if !negative then .ok (.integer magnitude, c)
  else if 0 < magnitude ∧ magnitude ≤ Nat.pow 2 63 then .ok (.integer (-magnitude), c)
  else scaled true magnitude 0 c

/-- Stores a whole number by its significand and the number of digits that were left over. -/
def wholePart (negative : Bool) (significand left : Nat) : Reader Number :=
  if left = 0 then whole negative significand else scaled negative significand left

/-- Reads what may follow the whole part of a number. -/
def afterWhole (negative : Bool) (digits : List Char) (c : Cursor) :
    Except Fault (Number × Cursor) :=
  let (significand, left) := gather 0 digits
  match c.rest with
  | '.' :: rest => fractionPart negative significand left ⟨rest, c.offset + 1⟩
  | _ => exponentOr (exponentPart negative significand left) (wholePart negative significand left) c

/-- Reads a number, after its sign. -/
def numberPart (negative : Bool) (c : Cursor) : Except Fault (Number × Cursor) :=
  match c.rest with
  | [] => c.here .unfinishedValue
  | ch :: rest =>
    if ch = '0' then
      match rest with
      | next :: _ =>
        if next.isDigit then (⟨rest, c.offset + 1⟩ : Cursor).ahead .wrongNumber
        else afterWhole negative ['0'] ⟨rest, c.offset + 1⟩
      | [] => afterWhole negative ['0'] ⟨rest, c.offset + 1⟩
    else if ch.isDigit then
      let (digits, after) := Cursor.spanDigits c.rest
      afterWhole negative digits ⟨after, c.offset + digits.length⟩
    else c.beyond .wrongNumber

/-! ## Strings -/

/-- The value of four hexadecimal digits at the front of a text, and what follows them. -/
def fourHex? : List Char → Option (Nat × List Char)
  | a :: b :: c :: d :: rest => do
    let a ← hexValue? a
    let b ← hexValue? b
    let c ← hexValue? c
    let d ← hexValue? d
    return (((a * 16 + b) * 16 + c) * 16 + d, rest)
  | _ => none

/-- Reads the four hexadecimal digits of an escape.  Four bytes are looked at together. -/
def hexEscape (c : Cursor) : Except Fault (Nat × Cursor) :=
  match fourHex? c.rest with
  | some (n, rest) => .ok (n, ⟨rest, c.offset + 4⟩)
  | none =>
    if 4 ≤ Cursor.byteLength c.rest then .error ⟨.wrongEscape, c.offset + 4, []⟩
    else .error ⟨.unfinishedString, c.offset + Cursor.byteLength c.rest, []⟩

/-- The escape opens a pair of surrogates. -/
def isHighSurrogate (n : Nat) : Bool := 0xD800 ≤ n && n ≤ 0xDBFF

/-- The escape closes a pair of surrogates. -/
def isLowSurrogate (n : Nat) : Bool := 0xDC00 ≤ n && n ≤ 0xDFFF

/-- Reads the second half of a pair of surrogates. -/
def lowSurrogate (high : Nat) (c : Cursor) : Except Fault (Char × Cursor) :=
  match c.rest with
  | [] => c.here .unfinishedString
  | '\\' :: [] => (⟨[], c.offset + 1⟩ : Cursor).here .unfinishedString
  | '\\' :: 'u' :: rest => do
    let (low, c') ← hexEscape ⟨rest, c.offset + 2⟩
    if isLowSurrogate low then
      return (Char.ofNat (0x10000 + (high - 0xD800) * 0x400 + (low - 0xDC00)), c')
    else c'.here .loneSurrogate
  | '\\' :: rest => (⟨rest, c.offset + 1⟩ : Cursor).beyond .unfinishedSurrogate
  | _ :: _ => c.beyond .unfinishedSurrogate

/-- Reads an escape by number, after the letter that opens it. -/
def unicodeEscape (c : Cursor) : Except Fault (Char × Cursor) := do
  let (n, c') ← hexEscape c
  if isLowSurrogate n then c'.here .loneSurrogate
  else if isHighSurrogate n then lowSurrogate n c'
  else return (Char.ofNat n, c')

/-- The character of an escape by letter. -/
def letterEscape? : Char → Option Char
  | '"' => some '"'
  | '\\' => some '\\'
  | '/' => some '/'
  | 'b' => some '\x08'
  | 'f' => some '\x0c'
  | 'n' => some '\n'
  | 'r' => some '\r'
  | 't' => some '\t'
  | _ => none

/-- Reads an escape, after the backslash. -/
def escape (c : Cursor) : Except Fault (Char × Cursor) :=
  match c.rest with
  | [] => c.here .unfinishedString
  | ch :: rest =>
    match letterEscape? ch with
    | some out => .ok (out, ⟨rest, c.offset + 1⟩)
    | none => if ch = 'u' then unicodeEscape ⟨rest, c.offset + 1⟩ else c.beyond .wrongEscape

/-- Reads a string up to and including the closing quote.  The number bounds the characters that
are left. -/
def stringRest : Nat → Cursor → Except Fault (List Char × Cursor)
  | 0, c => c.here .unfinishedString
  | n + 1, c =>
    match c.rest with
    | [] => c.here .unfinishedString
    | ch :: rest =>
      if ch = '"' then .ok ([], ⟨rest, c.offset + 1⟩)
      else if ch = '\\' then do
        let (out, c') ← escape ⟨rest, c.offset + 1⟩
        let (tail, c'') ← stringRest n c'
        return (out :: tail, c'')
      else if ch < ' ' then c.beyond .controlCharacter
      else do
        let (tail, c') ← stringRest n ⟨rest, c.offset + ch.utf8Size⟩
        return (ch :: tail, c')

/-- Reads a string, after the opening quote. -/
def stringPart (c : Cursor) : Except Fault (String × Cursor) := do
  let (chars, c') ← stringRest c.rest.length c
  return (String.ofList chars, c')

/-! ## Containers -/

/-- Reads elements from the first character of one up to and including the closing bracket. -/
def elements (item : Reader Json) : (bound index : Nat) → Cursor → Except Fault (List Json × Cursor)
  | 0, _, c => c.here .unfinishedValue
  | n + 1, index, c => do
    let (v, c') ← Cursor.under (.element index) (item c)
    let c := c'.skipBlanks
    match c.rest with
    | [] => c.here .unfinishedList
    | ']' :: rest => return ([v], ⟨rest, c.offset + 1⟩)
    | ',' :: rest =>
      let c := (⟨rest, c.offset + 1⟩ : Cursor).skipBlanks
      match c.rest with
      | [] => c.here .unfinishedValue
      | ']' :: _ => c.beyond .trailingComma
      | _ :: _ =>
        let (vs, c'') ← elements item n (index + 1) c
        return (v :: vs, c'')
    | _ :: _ => c.beyond .missingListComma

/-- Reads an array, after the opening bracket. -/
def arrayPart (item : Reader Json) (c : Cursor) : Except Fault (List Json × Cursor) :=
  let c := c.skipBlanks
  match c.rest with
  | [] => c.here .unfinishedList
  | ']' :: rest => .ok ([], ⟨rest, c.offset + 1⟩)
  | rest => elements item rest.length 0 c

/-- Reads the colon between a key and its value. -/
def colon (c : Cursor) : Except Fault Cursor :=
  let c := c.skipBlanks
  match c.rest with
  | [] => c.here .unfinishedObject
  | ':' :: rest => .ok ⟨rest, c.offset + 1⟩
  | _ :: _ => c.beyond .missingColon

/-- Reads a key, from its quote on. -/
def key (c : Cursor) : Except Fault (String × Cursor) :=
  Cursor.under .unnamed <|
    match c.rest with
    | '"' :: rest => stringPart ⟨rest, c.offset + 1⟩
    | _ => c.ahead .missingKey

/-- Reads members from the quote of a key up to and including the closing brace. -/
def members (item : Reader Json) : (bound : Nat) → Cursor →
    Except Fault (List (String × Json) × Cursor)
  | 0, c => Cursor.under .unnamed (c.here .unfinishedValue)
  | n + 1, c => do
    let (k, c') ← key c
    let c' ← colon c'
    let (v, c') ← Cursor.under (.key k) (item c')
    let c := c'.skipBlanks
    match c.rest with
    | [] => Cursor.under .unnamed (c.here .unfinishedObject)
    | '}' :: rest => return ([(k, v)], ⟨rest, c.offset + 1⟩)
    | ',' :: rest =>
      let c := (⟨rest, c.offset + 1⟩ : Cursor).skipBlanks
      match c.rest with
      | [] => Cursor.under .unnamed (c.here .unfinishedValue)
      | '}' :: _ => Cursor.under .unnamed (c.beyond .trailingComma)
      | _ :: _ =>
        let (kvs, c'') ← members item n c
        return ((k, v) :: kvs, c'')
    | _ :: _ => Cursor.under .unnamed (c.beyond .missingObjectComma)

/-- Reads an object, after the opening brace. -/
def objectPart (item : Reader Json) (c : Cursor) : Except Fault (List (String × Json) × Cursor) :=
  let c := c.skipBlanks
  match c.rest with
  | [] => Cursor.under .unnamed (c.here .unfinishedObject)
  | '}' :: rest => .ok ([], ⟨rest, c.offset + 1⟩)
  | rest => members item rest.length c

/-! ## Values and documents -/

/-- Reads a value whose parts, if it is a container, are read by the given reader.  Without one no
further container may be opened. -/
def valueOver (item : Option (Reader Json)) (c : Cursor) : Except Fault (Json × Cursor) :=
  let c := c.skipBlanks
  match c.rest with
  | [] => c.here .unfinishedValue
  | ch :: rest =>
    let after : Cursor := ⟨rest, c.offset + 1⟩
    match ch with
    | 'n' => do return (.null, ← Cursor.letters ['u', 'l', 'l'] after)
    | 't' => do return (.bool true, ← Cursor.letters ['r', 'u', 'e'] after)
    | 'f' => do return (.bool false, ← Cursor.letters ['a', 'l', 's', 'e'] after)
    | '-' => do let (n, c') ← numberPart true after; return (.number n, c')
    | '"' => do let (s, c') ← stringPart after; return (.string s, c')
    | '[' =>
      match item with
      | none => c.beyond .nestedTooDeep
      | some item => do let (vs, c') ← arrayPart item after; return (.array vs, c')
    | '{' =>
      match item with
      | none => c.beyond .nestedTooDeep
      | some item => do let (kvs, c') ← objectPart item after; return (.object kvs, c')
    | _ =>
      if ch.isDigit then do let (n, c') ← numberPart false c; return (.number n, c')
      else c.beyond .missingValue

/-- Reads a value in which at most the given number of containers is open at a time. -/
def value : Nat → Reader Json
  | 0 => valueOver none
  | depth + 1 => valueOver (some (value depth))

/-- The greatest number of containers that may be open at a time. -/
def greatestDepth : Nat := 127

/-- Reads a document from its text.  Keys are not yet merged. -/
def readRaw (text : List Char) : Except Fault Json := do
  let (v, c) ← value greatestDepth (.start text)
  let c := c.skipBlanks
  match c.rest with
  | [] => return v
  | _ :: _ => c.beyond .trailingText

/-- Reads a document from its text. -/
def read (text : List Char) : Except Fault Json := (readRaw text).map merged

/-- Reads a document from a string, or says why there is none. -/
def parse (text : String) : Except String Json :=
  match read text.toList with
  | .ok v => .ok v
  | .error f => .error (f.message text.toList)

example : read "[true, \x7b\"a\": \"b\", \"a\": null\x7d]".toList
    = .ok (.array [.bool true, .object [("a", .null)]]) := by cbv

end Json

end BodyCheck
