import BodyCheck.Filter.CharSet
import BodyCheck.Filter.Token

/-!
# Regular expressions

An `Expression` describes texts.  `Expression.read?` reads one from its own notation.

How a part of the notation is read depends on settings, such as whether letters count in both cases.
The settings are given at the start, and `(?i)` and its like change them up to the end of the
enclosing group.  A reader takes a `Reading`, which holds what is left of the text, and gives the
`Reading` behind the part it read.  The bound of the readers is the length of the text.
-/

namespace BodyCheck

namespace Filter

/-- A condition on a place in a text. -/
inductive Look where
  | front
  | back
  /-- The front of the text or of a line. -/
  | lineFront
  /-- The back of the text or of a line. -/
  | lineBack
  /-- The front of the text or of a line, where a carriage return ends lines too. -/
  | returnFront
  /-- The back of the text or of a line, where a carriage return ends lines too. -/
  | returnBack
  /-- Just one side of the place belongs to a word. -/
  | wordEdge
  /-- Both sides of the place belong to words, or none does. -/
  | noWordEdge
  | wordStart
  | wordEnd
  /-- The side before the place belongs to no word. -/
  | noWordBefore
  /-- The side behind the place belongs to no word. -/
  | noWordBehind
deriving DecidableEq, Repr

/-- A regular expression. -/
inductive Expression where
  | empty
  | set (s : CharSet)
  | look (l : Look)
  | sequence (a b : Expression)
  | either (a b : Expression)
  /-- At least and at most so many times; the longer or the shorter one first. -/
  | several (least : Nat) (most : Option Nat) (longest : Bool) (e : Expression)
  /-- A part that is remembered under a number and perhaps a name. -/
  | group (index : Nat) (name : Option String) (e : Expression)
deriving Repr

namespace Expression

/-- How a notation is read. -/
structure Settings where
  /-- Upper and lower case count as the same. -/
  anyCase : Bool := false
  /-- The front and the back are also those of lines. -/
  byLine : Bool := false
  /-- The point means any character, the end of a line included. -/
  pointIsAll : Bool := false
  /-- A repetition takes the shorter one first, unless it is marked. -/
  shortest : Bool := false
  /-- A carriage return ends lines too. -/
  returns : Bool := false
  /-- Blanks and comments are left out. -/
  spaced : Bool := false
deriving Repr

/-- The state of reading. -/
structure Reading where
  settings : Settings
  /-- The number of groups that have been opened. -/
  groups : Nat := 0
  /-- The names of the groups. -/
  names : List String := []
  rest : List Char

namespace Reading

/-- Another text is left. -/
def leaving (r : Reading) (rest : List Char) : Reading := { r with rest }

/-- What follows blanks and comments. -/
def skipped : List Char → List Char
  | [] => []
  | ch :: rest =>
    if Token.isBlank ch then skipped rest
    else if ch = '#' then inComment rest
    else ch :: rest
where
  /-- What follows the rest of a comment and the blanks behind it. -/
  inComment : List Char → List Char
    | [] => []
    | ch :: rest => if ch = '\n' then skipped rest else inComment rest

/-- Blanks and comments are left out, if they are meant to be. -/
def skip (r : Reading) : Reading := if r.settings.spaced then r.leaving (skipped r.rest) else r

/-- The expression of a character. -/
def char (r : Reading) (ch : Char) : Expression :=
  .set (if r.settings.anyCase then (CharSet.single ch).bothCases else .single ch)

/-- The expression of the point. -/
def point (r : Reading) : Expression :=
  .set (if r.settings.pointIsAll then .all
    else if r.settings.returns then ((CharSet.single '\n').union (.single '\r')).complement
    else (CharSet.single '\n').complement)

/-- The condition for the front. -/
def front (r : Reading) : Look :=
  if !r.settings.byLine then .front else if r.settings.returns then .returnFront else .lineFront

/-- The condition for the back. -/
def back (r : Reading) : Look :=
  if !r.settings.byLine then .back else if r.settings.returns then .returnBack else .lineBack

/-! ## Escapes -/

/-- The character with a number. -/
def numbered? (n : Nat) : Option Char :=
  if h : n.isValidChar then some (Char.ofNatAux n h) else none

/-- The number of hexadecimal digits. -/
def hexNumber? (digits : List Char) : Option Nat :=
  if digits.isEmpty then none
  else digits.foldlM (fun n ch => do return n * 16 + (← hexValue? ch)) 0

/-- A character given by its number in hexadecimal digits: so many, or any number in braces. -/
def hexChar (r : Reading) (count : Nat) (rest : List Char) : Option (Char × Reading) := do
  let rest := (r.leaving rest).skip.rest
  match rest with
  | '\x7b' :: rest =>
    let digits := rest.takeWhile (· != '\x7d')
    let ch ← numbered? (← hexNumber? (digits.filter fun ch => !(r.settings.spaced && ch == ' ')))
    match rest.dropWhile (· != '\x7d') with
    | _ :: rest => return (ch, r.leaving rest)
    | [] => none
  | _ =>
    let digits := rest.take count
    if digits.length = count then
      return (← numbered? (← hexNumber? digits), r.leaving (rest.drop count))
    else none

/-- The character that a letter behind a backslash stands for, or the sign that it takes its meaning
from. -/
def escaped? : Char → Option Char
  | 'a' => some '\x07'
  | 'f' => some '\x0c'
  | 't' => some '\t'
  | 'n' => some '\n'
  | 'r' => some '\r'
  | 'v' => some '\x0b'
  | ch =>
    if ch.isAlphanum || ch == '<' || ch == '>' || 128 ≤ ch.toNat then none else some ch

/-- The condition that a word in braces stands for. -/
def edge? : String → Option Look
  | "start" => some .wordStart
  | "end" => some .wordEnd
  | "start-half" => some .noWordBefore
  | "end-half" => some .noWordBehind
  | _ => none

/-- A character of a word for an edge. -/
def inEdge (ch : Char) : Bool := ch.isAlpha || ch == '-'

/-- The edge of a word, behind its letter.  A kind of edge may follow in braces; braces that do not
begin with a letter are a repetition. -/
def edge (r : Reading) (rest : List Char) : Option (Look × Reading) :=
  match rest with
  | '\x7b' :: ch :: more =>
    if inEdge ch then do
      let l ← edge? (String.ofList ((ch :: more).takeWhile inEdge))
      match (ch :: more).dropWhile inEdge with
      | '\x7d' :: rest => return (l, r.leaving rest)
      | _ => none
    else some (.wordEdge, r.leaving rest)
  | _ => some (.wordEdge, r.leaving rest)

/-- What stands behind a backslash. -/
def escape (r : Reading) : List Char → Option (Expression × Reading)
  | [] => none
  | ch :: rest =>
    match CharSet.lettered? ch with
    | some s => some (.set s, r.leaving rest)
    | none =>
      match ch with
      | 'x' => (r.hexChar 2 rest).map fun (ch, r') => (r.char ch, r')
      | 'u' => (r.hexChar 4 rest).map fun (ch, r') => (r.char ch, r')
      | 'U' => (r.hexChar 8 rest).map fun (ch, r') => (r.char ch, r')
      | 'A' => some (.look .front, r.leaving rest)
      | 'z' => some (.look .back, r.leaving rest)
      | 'b' => (r.edge rest).map fun (l, r) => (.look l, r)
      | 'B' => some (.look .noWordEdge, r.leaving rest)
      | '<' => some (.look .wordStart, r.leaving rest)
      | '>' => some (.look .wordEnd, r.leaving rest)
      | ch => (escaped? ch).map fun ch => (r.char ch, r.leaving rest)

/-! ## Sets in brackets -/

/-- A named set between colons, behind its opening bracket. -/
def namedSet? : List Char → Option (CharSet × List Char)
  | ':' :: rest => do
    let (negated, rest) :=
      match rest with
      | '^' :: rest => (true, rest)
      | rest => (false, rest)
    let s ← CharSet.named? (String.ofList (rest.takeWhile (· != ':')))
    match rest.dropWhile (· != ':') with
    | ':' :: ']' :: rest => return (if negated then s.complement else s, rest)
    | _ => none
  | _ => none

/-- An item of a set: a single character, or a set of its own. -/
def item (r : Reading) : List Char → Option ((Char ⊕ CharSet) × Reading)
  | [] => none
  | '\\' :: ch :: rest =>
    match CharSet.lettered? ch with
    | some s => some (.inr s, r.leaving rest)
    | none =>
      match ch with
      | 'x' => (r.hexChar 2 rest).map fun (ch, r) => (.inl ch, r)
      | 'u' => (r.hexChar 4 rest).map fun (ch, r) => (.inl ch, r)
      | 'U' => (r.hexChar 8 rest).map fun (ch, r) => (.inl ch, r)
      | ch => (escaped? ch).map fun ch => (.inl ch, r.leaving rest)
  | ['\\'] => none
  | ch :: rest => some (.inl ch, r.leaving rest)

/-- The set that an item stands for. -/
def itemSet : Char ⊕ CharSet → CharSet
  | .inl ch => .single ch
  | .inr s => s

/-- A range of characters, or a single item. -/
def itemRange (r : Reading) : Option (CharSet × Reading) := do
  let (low, r) ← r.item r.rest
  let r := r.skip
  match r.rest with
  | [] => none
  | '-' :: rest =>
    let behind := (r.leaving rest).skip
    match behind.rest with
    | [] | ']' :: _ | '-' :: _ => return (itemSet low, r)
    | _ =>
      let (high, r) ← behind.item behind.rest
      match low, high with
      | .inl low, .inl high => if low ≤ high then return (.range low high, r) else none
      | _, _ => none
  | _ => return (itemSet low, r)

/-- The characters that stand together for an operation on sets, which there is none of. -/
def isSetOperator : List Char → Bool
  | '&' :: '&' :: _ | '-' :: '-' :: _ | '~' :: '~' :: _ => true
  | _ => false

/-- The items of a set, up to the closing bracket. -/
def items : Nat → CharSet → Reading → Option (CharSet × Reading)
  | 0, _, _ => none
  | n + 1, s, r =>
    let r := r.skip
    match r.rest with
    | [] => none
    | ']' :: rest => some (s, r.leaving rest)
    | '[' :: rest => do
      let (s', rest) ← namedSet? rest
      items n (s.union s') (r.leaving rest)
    | _ =>
      if isSetOperator r.rest then none
      else do
        let (s', r) ← r.itemRange
        items n (s.union s') r

/-- The minus signs at the front of a set, as a set, and what is left. -/
def minusSigns : Nat → CharSet → Reading → CharSet × Reading
  | 0, s, r => (s, r)
  | n + 1, s, r =>
    match r.rest with
    | '-' :: rest => minusSigns n (s.union (.single '-')) (r.leaving rest).skip
    | _ => (s, r)

/-- A set, behind the opening bracket.  A closing bracket at the front belongs to it. -/
def bracketed (r : Reading) : Option (Expression × Reading) := do
  let r := r.skip
  let (negated, r) :=
    match r.rest with
    | '^' :: rest => (true, (r.leaving rest).skip)
    | _ => (false, r)
  let (s, r) := minusSigns r.rest.length ⟨[]⟩ r
  let (s, r) :=
    match s.ranges, r.rest with
    | [], ']' :: rest => (CharSet.single ']', (r.leaving rest).skip)
    | _, _ => (s, r)
  let (s, r) ← items (r.rest.length + 1) s r
  let s := if r.settings.anyCase then s.bothCases else s
  return (.set (if negated then s.complement else s), r)

/-! ## Repetitions -/

/-- A number among blanks. -/
def count? (s : List Char) : Option (Nat × List Char) :=
  let s := s.dropWhile Token.isBlank
  let digits := s.takeWhile Char.isDigit
  if digits.isEmpty || Nat.pow 2 32 ≤ digitsValue digits then none
  else some (digitsValue digits, (s.dropWhile Char.isDigit).dropWhile Token.isBlank)

/-- The bounds of a repetition, behind the opening brace. -/
def bounds? (r : Reading) : Option (Nat × Option Nat × Reading) := do
  let (least, rest) ← count? r.rest
  match rest with
  | '\x7d' :: rest => return (least, some least, r.leaving rest)
  | ',' :: rest =>
    match (r.leaving rest).skip.rest with
    | '\x7d' :: rest => return (least, none, r.leaving rest)
    | rest =>
      let (most, rest) ← count? rest
      match rest with
      | '\x7d' :: rest => if least ≤ most then return (least, some most, r.leaving rest) else none
      | _ => none
  | _ => none

/-- The mark behind a repetition says which one comes first. -/
def marked (r : Reading) (least : Nat) (most : Option Nat) (e : Expression) :
    Expression × Reading :=
  match r.rest with
  | '?' :: rest => (.several least most r.settings.shortest e, r.leaving rest)
  | _ => (.several least most (!r.settings.shortest) e, r)

/-! ## Groups -/

/-- A character of the name of a group. -/
def inName (isFirst : Bool) (ch : Char) : Bool :=
  ch.isAlpha || ch == '_' || 128 ≤ ch.toNat
    || (!isFirst && (ch.isDigit || ch == '.' || ch == '[' || ch == ']'))

/-- The name of a group, up to its closing bracket.  No two groups have the same name. -/
def groupName? (r : Reading) (rest : List Char) : Option (String × Reading) :=
  let name := rest.takeWhile (· != '>')
  let name' := String.ofList name
  match name, rest.dropWhile (· != '>') with
  | first :: more, _ :: rest =>
    if inName true first && more.all (inName false) && !r.names.contains name' then
      some (name', { r with rest, names := name' :: r.names })
    else none
  | _, _ => none

/-- A setting switched by its letter. -/
def switched? (on : Bool) (s : Settings) : Char → Option Settings
  | 'i' => some { s with anyCase := on }
  | 'm' => some { s with byLine := on }
  | 's' => some { s with pointIsAll := on }
  | 'U' => some { s with shortest := on }
  | 'R' => some { s with returns := on }
  | 'x' => some { s with spaced := on }
  | _ => none

/-- Settings switched by different letters, one after the other. -/
def switchedAll? (on : Bool) : Settings → List Char → Option Settings
  | s, [] => some s
  | s, ch :: rest =>
    if rest.contains ch then none else (switched? on s ch).bind (switchedAll? on · rest)

/-- Settings switched by letters, those behind a minus sign off, up to a colon or a closing
bracket. -/
def switches? (s : Settings) (rest : List Char) : Option (Settings × List Char) := do
  let letters := rest.takeWhile fun ch => ch != ':' && ch != ')'
  let ons := letters.takeWhile (· != '-')
  let s' ← switchedAll? true s ons
  match letters.dropWhile (· != '-') with
  | [] => return (s', rest.drop letters.length)
  | [_] => none
  | _ :: offs =>
    if offs.any ons.contains then none
    else return (← switchedAll? false s' offs, rest.drop letters.length)

/-- What follows the opening bracket of a group. -/
inductive Opening where
  /-- A group that is remembered, perhaps under a name. -/
  | remembered (name : Option String) (r : Reading)
  /-- A group that is not remembered. -/
  | plain (r : Reading)
  /-- No group, but settings for what follows. -/
  | settings (r : Reading)

/-- The kind of a group, behind its opening bracket. -/
def opening (r : Reading) : Option Opening :=
  let r := r.skip
  match r.rest with
  | '?' :: 'P' :: '<' :: rest | '?' :: '<' :: rest =>
    (r.groupName? rest).map fun (name, r) => .remembered (some name) r
  | '?' :: rest => do
    let (settings, after) ← switches? r.settings rest
    match after with
    | ':' :: rest => return .plain { r with settings, rest }
    | ')' :: after =>
      if rest.head? = some ')' then none else return .settings { r with settings, rest := after }
    | _ => none
  | _ => some (.remembered none r)

/-! ## Expressions -/

/-- Expressions one after the other.  They are given from the last one on. -/
def inSequence (items : List Expression) : Expression :=
  items.foldl (fun e i => .sequence i e) .empty

/-- An expression or one of those before it, the first one of which stands last. -/
def inChoice (e : Expression) (before : List Expression) : Expression :=
  before.foldl (fun e e' => .either e' e) e

/-- The expressions up to the end of a group or of the text.  The alternatives that have been read
and the parts of the one at hand are given from the last one on. -/
def parts : Nat → (before items : List Expression) → Reading → Option (Expression × Reading)
  | 0, _, _, _ => none
  | n + 1, before, items, r =>
    let r := r.skip
    let ended : Expression := inChoice (inSequence items) before
    let onward (e : Expression) (r : Reading) : Option (Expression × Reading) :=
      parts n before (e :: items) r
    let again (least : Nat) (most : Option Nat) (r : Reading) : Option (Expression × Reading) :=
      match items with
      | [] => none
      | e :: items =>
        let (e, r) := r.marked least most e
        parts n before (e :: items) r
    let closed (e : Expression) (r' : Reading) : Option (Expression × Reading) :=
      match r'.rest with
      | ')' :: rest => onward e { r' with rest, settings := r.settings }
      | _ => none
    match r.rest with
    | [] | ')' :: _ => some (ended, r)
    | '|' :: rest => parts n (inSequence items :: before) [] (r.leaving rest)
    | '*' :: rest => again 0 none (r.leaving rest)
    | '+' :: rest => again 1 none (r.leaving rest)
    | '?' :: rest => again 0 (some 1) (r.leaving rest)
    | '\x7b' :: rest => do
      let (least, most, r) ← (r.leaving rest).bounds?
      again least most r.skip
    | '[' :: rest => do
      let (e, r) ← (r.leaving rest).bracketed
      onward e r
    | '\\' :: rest => do
      let (e, r) ← r.escape rest
      onward e r
    | '(' :: rest => do
      match ← (r.leaving rest).opening with
      | .settings r => parts n before items r
      | .plain r =>
        let (e, r') ← parts n [] [] r
        closed e r'
      | .remembered name r =>
        let (e, r') ← parts n [] [] { r with groups := r.groups + 1 }
        closed (.group (r.groups + 1) name e) r'
    | '.' :: rest => onward r.point (r.leaving rest)
    | '^' :: rest => onward (.look r.front) (r.leaving rest)
    | '$' :: rest => onward (.look r.back) (r.leaving rest)
    | ch :: rest => onward (r.char ch) (r.leaving rest)

end Reading

/-- The expression that a text stands for, and the number of its groups. -/
def read? (settings : Settings) (s : String) : Option (Expression × Nat) := do
  let (e, r) ← Reading.parts (s.length + 1) [] [] { settings, rest := s.toList }
  if r.rest.isEmpty then return (e, r.groups) else none

end Expression

end Filter

end BodyCheck
