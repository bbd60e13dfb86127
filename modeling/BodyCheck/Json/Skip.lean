import BodyCheck.Json.Reader

/-!
# Skipping JSON

`Json.skipValue` goes past a value that nobody asks for.  It looks less closely than a reader:
containers may be nested to any depth, a number may have any size, and the four digits of an escape
may stand for anything.

The loops take a bound of twice the number of characters left.  Of two rounds at least one goes past
a character, so nothing is left where the bound ends.
-/

namespace BodyCheck

namespace Json

/-! ## Numbers -/

/-- Goes past the digits at the front. -/
def skipDigits (c : Cursor) : Cursor :=
  let (digits, rest) := Cursor.spanDigits c.rest
  ⟨rest, c.offset + digits.length⟩

/-- Goes past one or more digits. -/
def skipSomeDigits (c : Cursor) : Except Fault Cursor :=
  match c.rest with
  | [] => c.ahead .wrongNumber
  | ch :: _ => if ch.isDigit then .ok (skipDigits c) else c.ahead .wrongNumber

/-- Goes past an exponent, if there is one. -/
def skipExponent (c : Cursor) : Except Fault Cursor :=
  match c.rest with
  | 'e' :: '+' :: rest | 'e' :: '-' :: rest | 'E' :: '+' :: rest | 'E' :: '-' :: rest =>
    skipSomeDigits ⟨rest, c.offset + 2⟩
  | 'e' :: rest | 'E' :: rest => skipSomeDigits ⟨rest, c.offset + 1⟩
  | _ => .ok c

/-- Goes past a fraction and an exponent, as far as there are some. -/
def skipFraction (c : Cursor) : Except Fault Cursor :=
  match c.rest with
  | '.' :: rest => do skipExponent (← skipSomeDigits ⟨rest, c.offset + 1⟩)
  | _ => skipExponent c

/-- Goes past a number, after its sign. -/
def skipNumber (c : Cursor) : Except Fault Cursor :=
  match c.rest with
  | '0' :: rest =>
    let c : Cursor := ⟨rest, c.offset + 1⟩
    match rest with
    | [] => .ok c
    | next :: _ => if next.isDigit then c.ahead .wrongNumber else skipFraction c
  | _ => do skipFraction (← skipSomeDigits c)

/-! ## Strings -/

/-- Goes past an escape, after the backslash. -/
def skipEscape (c : Cursor) : Except Fault Cursor :=
  match c.rest with
  | [] => c.here .unfinishedString
  | ch :: rest =>
    if (letterEscape? ch).isSome then .ok ⟨rest, c.offset + 1⟩
    else if ch = 'u' then (hexEscape ⟨rest, c.offset + 1⟩).map (·.2)
    else c.beyond .wrongEscape

/-- Goes past a string up to and including the closing quote.  The number bounds the characters
that are left. -/
def skipStringRest : Nat → Cursor → Except Fault Cursor
  | 0, c => c.here .unfinishedString
  | n + 1, c =>
    match c.rest with
    | [] => c.here .unfinishedString
    | ch :: rest =>
      if ch = '"' then .ok ⟨rest, c.offset + 1⟩
      else if ch = '\\' then do skipStringRest n (← skipEscape ⟨rest, c.offset + 1⟩)
      else if ch < ' ' then c.here .controlCharacter
      else skipStringRest n ⟨rest, c.offset + ch.utf8Size⟩

/-- Goes past a string, after the opening quote. -/
def skipString (c : Cursor) : Except Fault Cursor := skipStringRest c.rest.length c

/-- Goes past a key and its colon. -/
def skipKey (c : Cursor) : Except Fault Cursor :=
  match c.rest with
  | [] => c.here .unfinishedObject
  | '"' :: rest => do colon (← skipString ⟨rest, c.offset + 1⟩)
  | _ :: _ => c.beyond .missingKey

/-! ## Values -/

mutual

/-- Goes past a value. -/
def skipWithin : Nat → Cursor → Except Fault Cursor
  | 0, c => c.here .unfinishedValue
  | n + 1, c =>
    let c := c.skipBlanks
    match c.rest with
    | [] => c.here .unfinishedValue
    | ch :: rest =>
      let after : Cursor := ⟨rest, c.offset + 1⟩
      match ch with
      | 'n' => Cursor.letters ['u', 'l', 'l'] after
      | 't' => Cursor.letters ['r', 'u', 'e'] after
      | 'f' => Cursor.letters ['a', 'l', 's', 'e'] after
      | '-' => skipNumber after
      | '"' => skipString after
      | '[' =>
        let c := after.skipBlanks
        match c.rest with
        | [] => c.here .unfinishedList
        | ']' :: rest => .ok ⟨rest, c.offset + 1⟩
        | _ :: _ => skipItems n c
      | '{' =>
        let c := after.skipBlanks
        match c.rest with
        | [] => c.here .unfinishedObject
        | '}' :: rest => .ok ⟨rest, c.offset + 1⟩
        | _ :: _ => skipMembers n c
      | _ => if ch.isDigit then skipNumber c else c.beyond .missingValue

/-- Goes past elements, from the first one up to and including the closing bracket. -/
def skipItems : Nat → Cursor → Except Fault Cursor
  | 0, c => c.here .unfinishedValue
  | n + 1, c => do
    let c := (← skipWithin n c).skipBlanks
    match c.rest with
    | [] => c.here .unfinishedList
    | ']' :: rest => return ⟨rest, c.offset + 1⟩
    | ',' :: rest => skipItems n ⟨rest, c.offset + 1⟩
    | _ :: _ => c.beyond .missingListComma

/-- Goes past members, from the first key up to and including the closing brace. -/
def skipMembers : Nat → Cursor → Except Fault Cursor
  | 0, c => c.here .unfinishedValue
  | n + 1, c => do
    let c := (← skipWithin n (← skipKey c)).skipBlanks
    match c.rest with
    | [] => c.here .unfinishedObject
    | '}' :: rest => return ⟨rest, c.offset + 1⟩
    | ',' :: rest => skipMembers n (⟨rest, c.offset + 1⟩ : Cursor).skipBlanks
    | _ :: _ => c.beyond .missingObjectComma

end

/-- Goes past a value. -/
def skipValue (c : Cursor) : Except Fault Cursor := skipWithin (2 * c.rest.length + 1) c

example : (skipValue ⟨"[1e999, \x7b\"a\": \"\\ud800\"\x7d] 1".toList, 0⟩).toOption
    = some ⟨" 1".toList, 24⟩ := by cbv

end Json

end BodyCheck
