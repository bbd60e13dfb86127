import BodyCheck.Number.Digits

/-!
# Tokens of filters

`Token.scan` cuts the text of a filter into tokens.  What stands between brackets is one token, the
tokens inside it included, and so is a text with the filters inside it.  Blanks and comments
separate tokens; a comment ends with its line, unless the line ends with an odd number of
backslashes.

The scanners return what is left of the text.  Their bound is the length of the text: every round
takes at least one character.
-/

namespace BodyCheck

namespace Filter

mutual

/-- A token of a filter. -/
inductive Token where
  /-- A name or a keyword. -/
  | word (s : String)
  /-- A variable, with its dollar sign. -/
  | variable (s : String)
  /-- A format, with its at sign. -/
  | format (s : String)
  | numeral (s : String)
  /-- An operator, a point, or a mark between parts. -/
  | symbol (s : String)
  | text (pieces : List TextPiece)
  /-- Tokens between a bracket and its counterpart. -/
  | block (bracket : Char) (tokens : List Token)

/-- A piece of a text token. -/
inductive TextPiece where
  | literal (s : String)
  | filter (tokens : List Token)

end

namespace Token

/-! ## Characters -/

/-- The first character of a name. -/
def startsName (ch : Char) : Bool := ch.isAlpha || ch == '_'

/-- A character of a name. -/
def inName (ch : Char) : Bool := startsName ch || ch.isDigit

/-- A character of an operator. -/
def inOperator (ch : Char) : Bool := "|=!<>+-*/%".toList.contains ch

/-- A character that continues an operator.  A minus does not, so it may negate what follows. -/
def continuesOperator (ch : Char) : Bool := inOperator ch && ch != '-'

/-- A blank. -/
def isBlank (ch : Char) : Bool :=
  let n := ch.toNat
  (9 ≤ n && n ≤ 13) || n == 0x20 || n == 0x85 || n == 0xA0 || n == 0x1680
    || (0x2000 ≤ n && n ≤ 0x200A) || n == 0x2028 || n == 0x2029 || n == 0x202F || n == 0x205F
    || n == 0x3000

/-- The bracket that closes another one. -/
def closing : Char → Char
  | '(' => ')'
  | '[' => ']'
  | _ => '}'

/-! ## Blanks -/

/-- What follows the line a comment stands on, and the number of backslashes at its end. -/
def lineEnd : Nat → List Char → List Char × Nat
  | count, [] => ([], count)
  | count, '\r' :: '\n' :: rest => (rest, count)
  | count, '\n' :: rest => (rest, count)
  | count, ch :: rest => lineEnd (if ch = '\\' then count + 1 else 0) rest

/-- What follows a comment. -/
def skipComment : Nat → List Char → List Char
  | 0, s => s
  | n + 1, s =>
    let (rest, count) := lineEnd 0 s
    if count % 2 = 0 then rest else skipComment n rest

/-- What follows blanks and comments. -/
def skipSpace : Nat → List Char → List Char
  | 0, s => s
  | _, [] => []
  | n + 1, ch :: rest =>
    if isBlank ch then skipSpace n rest
    else if ch = '#' then skipSpace n (skipComment rest.length rest)
    else ch :: rest

/-! ## Names and numbers -/

/-- A name at the front, and what is left. -/
def name? : List Char → Option (List Char × List Char)
  | [] => none
  | ch :: rest =>
    if startsName ch then some (ch :: rest.takeWhile inName, rest.dropWhile inName) else none

/-- The parts of a name behind the first one. -/
def qualified : Nat → List Char → List Char × List Char
  | n + 1, ':' :: ':' :: s =>
    match name? s with
    | some (part, rest) =>
      let (more, rest) := qualified n rest
      (':' :: ':' :: (part ++ more), rest)
    | none => ([], ':' :: ':' :: s)
  | _, s => ([], s)

/-- A numeral at the front, which starts with a digit. -/
def numeral? (s : List Char) : Option (List Char × List Char) :=
  let whole := s.takeWhile Char.isDigit
  let rest := s.dropWhile Char.isDigit
  let (fraction, rest) :=
    match rest with
    | '.' :: rest => ('.' :: rest.takeWhile Char.isDigit, rest.dropWhile Char.isDigit)
    | _ => ([], rest)
  let exponent (mark : List Char) (rest : List Char) : Option (List Char × List Char) :=
    let digits := rest.takeWhile Char.isDigit
    if digits.isEmpty then none
    else some (whole ++ fraction ++ mark ++ digits, rest.dropWhile Char.isDigit)
  match rest with
  | 'e' :: '+' :: rest => exponent ['e', '+'] rest
  | 'e' :: '-' :: rest => exponent ['e', '-'] rest
  | 'E' :: '+' :: rest => exponent ['E', '+'] rest
  | 'E' :: '-' :: rest => exponent ['E', '-'] rest
  | 'e' :: rest => exponent ['e'] rest
  | 'E' :: rest => exponent ['E'] rest
  | _ => some (whole ++ fraction, rest)

/-! ## Texts -/

/-- The character with the number of four hexadecimal digits.  Surrogates are none. -/
def unicode? : List Char → Option (Char × List Char)
  | a :: b :: c :: d :: rest => do
    let n := ((← hexValue? a) * 16 + (← hexValue? b)) * 256 + (← hexValue? c) * 16 + (← hexValue? d)
    if h : n.isValidChar then return (Char.ofNatAux n h, rest) else none
  | _ => none

/-- The character of an escape by letter. -/
def letter? : Char → Option Char
  | '\\' => some '\\'
  | '/' => some '/'
  | '"' => some '"'
  | 'b' => some '\x08'
  | 'f' => some '\x0c'
  | 'n' => some '\n'
  | 'r' => some '\r'
  | 't' => some '\t'
  | _ => none

/-- Pieces with a character in front. -/
def addChar (ch : Char) : List TextPiece → List TextPiece
  | .literal s :: rest => .literal (String.ofList (ch :: s.toList)) :: rest
  | pieces => .literal (String.ofList [ch]) :: pieces

mutual

/-- The tokens at the front, up to something that starts none. -/
def tokens : Nat → List Char → Option (List Token × List Char)
  | 0, s => some ([], s)
  | n + 1, s =>
    let s := skipSpace s.length s
    match s with
    | [] => some ([], [])
    | ch :: rest =>
      if startsName ch then
        let first := rest.takeWhile inName
        let (more, rest) := qualified rest.length (rest.dropWhile inName)
        follow n (.word (String.ofList (ch :: (first ++ more)))) rest
      else if ch = '$' then
        match name? rest with
        | some (part, rest) => follow n (.variable (String.ofList ('$' :: part))) rest
        | none => none
      else if ch = '@' then
        match name? rest with
        | some (part, rest) => follow n (.format (String.ofList ('@' :: part))) rest
        | none => none
      else if ch.isDigit then
        match numeral? s with
        | some (digits, rest) => follow n (.numeral (String.ofList digits)) rest
        | none => none
      else if inOperator ch then
        follow n (.symbol (String.ofList (ch :: rest.takeWhile continuesOperator)))
          (rest.dropWhile continuesOperator)
      else if ch = '.' then
        match rest with
        | '.' :: rest => follow n (.symbol "..") rest
        | _ =>
          match name? rest with
          | some (part, rest) => follow n (.symbol (String.ofList ('.' :: part))) rest
          | none => follow n (.symbol ".") rest
      else if ch = ':' ∨ ch = ';' ∨ ch = ',' ∨ ch = '?' then
        follow n (.symbol (String.ofList [ch])) rest
      else if ch = '"' then
        match pieces n rest with
        | some (ps, rest) => follow n (.text ps) rest
        | none => none
      else if ch = '(' ∨ ch = '[' ∨ ch = '{' then
        match enclosed n (closing ch) rest with
        | some (ts, rest) => follow n (.block ch ts) rest
        | none => none
      else some ([], s)

/-- A token and those after it. -/
def follow : Nat → Token → List Char → Option (List Token × List Char)
  | 0, t, s => some ([t], s)
  | n + 1, t, s =>
    match tokens n s with
    | some (ts, rest) => some (t :: ts, rest)
    | none => none

/-- The tokens up to a closing bracket. -/
def enclosed : Nat → Char → List Char → Option (List Token × List Char)
  | 0, _, _ => none
  | n + 1, close, s =>
    match tokens n s with
    | some (ts, ch :: rest) => if ch = close then some (ts, rest) else none
    | _ => none

/-- The pieces of a text up to the closing quote. -/
def pieces : Nat → List Char → Option (List TextPiece × List Char)
  | 0, _ => none
  | _, [] => none
  | n + 1, ch :: rest =>
    if ch = '"' then some ([], rest)
    else if ch = '\\' then
      match rest with
      | '(' :: rest =>
        match enclosed n ')' rest with
        | some (ts, rest) =>
          match pieces n rest with
          | some (ps, rest) => some (.filter ts :: ps, rest)
          | none => none
        | none => none
      | 'u' :: rest =>
        match unicode? rest with
        | some (c, rest) =>
          match pieces n rest with
          | some (ps, rest) => some (addChar c ps, rest)
          | none => none
        | none => none
      | letter :: rest =>
        match letter? letter with
        | some c =>
          match pieces n rest with
          | some (ps, rest) => some (addChar c ps, rest)
          | none => none
        | none => none
      | [] => none
    else
      match pieces n rest with
      | some (ps, rest) => some (addChar ch ps, rest)
      | none => none

end

/-- The tokens of a text. -/
def scan (s : List Char) : Option (List Token) :=
  match tokens (3 * s.length + 3) s with
  | some (ts, []) => some ts
  | _ => none

end Token

end Filter

end BodyCheck
