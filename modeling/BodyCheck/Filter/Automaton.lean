import BodyCheck.Filter.Expression

/-!
# Searching for regular expressions

An expression is laid out as a list of instructions, each of which names the ones that may follow.
A run through them at a place in a text finds out whether the expression matches there.  Where two
instructions may follow, the run takes the first one and comes back for the second one if that
leads nowhere.  An instruction that the run has been at before, at the same place in the text, leads
nowhere: what follows it depends on nothing else, so it has failed or is still being tried.  That is
why a run ends, and why a repetition does not go around without taking a character.

A search finds the leftmost place where the expression matches.
-/

namespace BodyCheck

namespace Filter

/-- A step of a match.  The numbers are places of instructions. -/
inductive Instruction where
  /-- Takes a character of a set. -/
  | take (s : CharSet) (next : Nat)
  /-- Goes on where a condition holds. -/
  | look (l : Look) (next : Nat)
  /-- Goes on at the first place, or else at the second one. -/
  | fork (first second : Nat)
  /-- Remembers the place in the text under a number. -/
  | mark (slot next : Nat)
  /-- The expression matches. -/
  | accept
deriving Repr

/-- Instructions; what follows one is named by its place among them. -/
abbrev Instructions := Array Instruction

namespace Expression

/-! ## Layout -/

/-- The expression matches a text without characters, or may do so. -/
def mayBeEmpty : Expression → Bool
  | .empty => true
  | .set _ => false
  | .look _ => true
  | .sequence a b => mayBeEmpty a && mayBeEmpty b
  | .either a b => mayBeEmpty a || mayBeEmpty b
  | .several least _ _ e => least == 0 || mayBeEmpty e
  | .group _ _ e => mayBeEmpty e

/-- The number of instructions of an expression. -/
def size : Expression → Nat
  | .empty => 0
  | .set _ => 1
  | .look _ => 1
  | .sequence a b => size a + size b
  | .either a b => size a + size b + 1
  | .several least most _ e =>
    match most with
    | none => max 1 least * size e + 2
    | some most => most * (size e + 1)
  | .group _ _ e => size e + 2

/-- Instructions with one more, and its place. -/
def appended (i : Instruction) (code : Instructions) : Nat × Instructions :=
  (code.size, code.push i)

/-- A choice between going around and going on. -/
def turn (longest : Bool) (around onward : Nat) : Instruction :=
  if longest then .fork around onward else .fork onward around

/-- The same instructions so many times over, each before the last ones. -/
def copies (layout : Nat → Instructions → Nat × Instructions) :
    Nat → Nat → Instructions → Nat × Instructions
  | 0, next, code => (next, code)
  | n + 1, next, code =>
    let (start, code) := layout next code
    copies layout n start code

/-- The same instructions up to so many times. -/
def choices (layout : Nat → Instructions → Nat × Instructions) (longest : Bool) (stop : Nat) :
    Nat → Nat → Instructions → Nat × Instructions
  | 0, next, code => (next, code)
  | n + 1, next, code =>
    let (start, code) := layout next code
    let (start, code) := appended (turn longest start stop) code
    choices layout longest stop n start code

/-- The same instructions once or more often, and the place of the choice to go around. -/
def around (layout : Nat → Instructions → Nat × Instructions) (longest : Bool) (next : Nat)
    (code : Instructions) : Nat × Nat × Instructions :=
  let (place, code) := appended .accept code
  let (start, code) := layout place code
  (start, place, code.set! place (turn longest start next))

/-- Instructions with those of an expression before the one at a place, and the place of the first
one.  A repetition of something that may be empty, of which there need be none, is one round or more
that may be left out: so it can end with a round that took no character. -/
def layout : Expression → Nat → Instructions → Nat × Instructions
  | .empty, next, code => (next, code)
  | .set s, next, code => appended (.take s next) code
  | .look l, next, code => appended (.look l next) code
  | .sequence a b, next, code =>
    let (start, code) := layout b next code
    layout a start code
  | .either a b, next, code =>
    let (second, code) := layout b next code
    let (first, code) := layout a next code
    appended (.fork first second) code
  | .several least (some most) longest e, next, code =>
    let (start, code) := choices (layout e) longest next (most - least) next code
    copies (layout e) least start code
  | .several least none longest e, next, code =>
    let (start, place, code) := around (layout e) longest next code
    if least = 0 then
      if mayBeEmpty e then appended (turn longest start next) code else (place, code)
    else copies (layout e) (least - 1) start code
  | .group index _ e, next, code =>
    let (start, code) := appended (.mark (2 * index + 1) next) code
    let (start, code) := layout e start code
    appended (.mark (2 * index) start) code

/-- The greatest number of instructions that are laid out. -/
def greatestSize : Nat := Nat.pow 2 18

/-- The instructions of an expression, and the place of the first one.  The whole match is the group
with the number zero. -/
def instructions (e : Expression) : Nat × Instructions :=
  layout (.group 0 none e) 0 #[.accept]

/-! ## Runs -/

/-- The character at a place belongs to a word. -/
def isWordAt (text : Array Char) (i : Nat) : Bool := text[i]?.any CharSet.wordChars.has

/-- The character before a place belongs to a word. -/
def isWordBefore (text : Array Char) (i : Nat) : Bool := i != 0 && isWordAt text (i - 1)

/-- The character before a place. -/
def before? (text : Array Char) (i : Nat) : Option Char := if i = 0 then none else text[i - 1]?

end Expression

/-- The condition holds at a place in a text. -/
def Look.holdsAt (text : Array Char) (i : Nat) : Look → Bool
  | .front => i == 0
  | .back => i == text.size
  | .lineFront => i == 0 || Expression.before? text i == some '\n'
  | .lineBack => i == text.size || text[i]? == some '\n'
  | .returnFront =>
    i == 0 || Expression.before? text i == some '\n'
      || (Expression.before? text i == some '\r' && text[i]? != some '\n')
  | .returnBack =>
    i == text.size || text[i]? == some '\r'
      || (text[i]? == some '\n' && Expression.before? text i != some '\r')
  | .wordEdge => Expression.isWordBefore text i != Expression.isWordAt text i
  | .noWordEdge => Expression.isWordBefore text i == Expression.isWordAt text i
  | .wordStart => !Expression.isWordBefore text i && Expression.isWordAt text i
  | .wordEnd => Expression.isWordBefore text i && !Expression.isWordAt text i
  | .noWordBefore => !Expression.isWordBefore text i
  | .noWordBehind => !Expression.isWordAt text i

namespace Expression

/-- Where a run is: an instruction, a place in the text, and the places that are remembered. -/
structure State where
  instruction : Nat
  place : Nat
  marks : List (Nat × Nat)

/-- The states that may follow a state, the first one first. -/
def nextStates (code : Instructions) (text : Array Char) (s : State) : List State :=
  match code[s.instruction]? with
  | some (.take chars next) =>
    if text[s.place]?.any chars.has then [{ s with instruction := next, place := s.place + 1 }]
    else []
  | some (.look l next) =>
    if l.holdsAt text s.place then [{ s with instruction := next }] else []
  | some (.fork first second) =>
    [{ s with instruction := first }, { s with instruction := second }]
  | some (.mark slot next) =>
    [{ s with instruction := next,
              marks := (slot, s.place) :: s.marks.filter (·.1 != slot) }]
  | some .accept | none => []

/-- A run through the states that wait, the first one first.  Gives the state that matches, and
where the run has been.  The bound is the number of states that are looked at. -/
def explore (code : Instructions) (text : Array Char) :
    Nat → List State → Array Bool → Option State × Array Bool
  | 0, _, seen => (none, seen)
  | _, [], seen => (none, seen)
  | n + 1, s :: waiting, seen =>
    let here := s.instruction * (text.size + 1) + s.place
    if seen.getD here true then explore code text n waiting seen
    else
      match code[s.instruction]? with
      | some .accept => (some s, seen)
      | _ => explore code text n (nextStates code text s ++ waiting) (seen.set! here true)

/-- The leftmost match at a place or behind it.  The bound is one more than the number of characters
behind the place. -/
def findFrom (start : Nat) (code : Instructions) (text : Array Char) :
    Nat → (place : Nat) → Array Bool → Option State
  | 0, _, _ => none
  | n + 1, place, seen =>
    match explore code text (2 * seen.size + 2) [⟨start, place, []⟩] seen with
    | (some s, _) => some s
    | (none, seen) => findFrom start code text n (place + 1) seen

/-- The leftmost match at a place or behind it. -/
def find (start : Nat) (code : Instructions) (text : Array Char) (place : Nat) : Option State :=
  findFrom start code text (text.size + 1 - place) place
    (Array.replicate (code.size * (text.size + 1)) false)

/-- All matches at a place or behind it.  Where a match has just ended, an empty one does not count.
The bound is twice the number of places. -/
def findAll (start : Nat) (code : Instructions) (text : Array Char) :
    Nat → (ended : Option Nat) → (place : Nat) → List State
  | 0, _, _ => []
  | n + 1, ended, place =>
    match find start code text place with
    | none => []
    | some s =>
      if s.marks.lookup 0 = some s.place ∧ ended = some s.place then
        match find start code text (place + 1) with
        | none => []
        | some s => s :: findAll start code text n (some s.place) s.place
      else s :: findAll start code text n (some s.place) s.place

/-! ## Matches -/

/-- A part of a text that has been matched. -/
structure Span where
  /-- The number of characters before it. -/
  start : Nat
  text : List Char
  name : Option String := none
deriving Repr

/-- The part of a text under a number. -/
def span? (text : Array Char) (name : Option String) (marks : List (Nat × Nat)) (index : Nat) :
    Option Span := do
  let start ← marks.lookup (2 * index)
  let stop ← marks.lookup (2 * index + 1)
  return ⟨start, (text.extract start stop).toList, name⟩

/-- The names of the groups of an expression with their numbers. -/
def groupNames : Expression → List (Nat × String)
  | .empty | .set _ | .look _ => []
  | .sequence a b | .either a b => groupNames a ++ groupNames b
  | .several _ _ _ e => groupNames e
  | .group index name e => (name.map (index, ·)).toList ++ groupNames e

/-- How matches are chosen. -/
structure Choice where
  /-- All matches are found, and not only the first one. -/
  everywhere : Bool := false
  /-- Empty matches do not count. -/
  notEmpty : Bool := false
deriving Repr

/-- The matches of an expression in a text, each as its groups, the whole match first.  Groups that
took no part are missing.  There is no match at the end of the text. -/
def matchesIn (e : Expression) (count : Nat) (choice : Choice) (s : String) : List (List Span) :=
  let text := s.toList.toArray
  let (start, code) := e.instructions
  let names := e.groupNames
  let found := (findAll start code text (2 * text.size + 2) none 0).map fun s =>
    (List.range (count + 1)).filterMap fun i => span? text (names.lookup i) s.marks i
  let counting := found.filter fun spans =>
    match spans with
    | [] => false
    | whole :: _ => whole.start < text.size && !(choice.notEmpty && whole.text.isEmpty)
  if choice.everywhere then counting else counting.take 1

end Expression

end Filter

end BodyCheck
