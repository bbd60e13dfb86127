/-!
# Patterns of names

A pattern is a path in which a name can stand for several names.  In a name `?` is any character,
`*` any characters, and brackets hold the characters that can stand there, or behind `!` those that
cannot.  `**` is a name of its own and stands for any number of directories.
-/

namespace BodyCheck

/-- What is wrong with a pattern. -/
inductive PatternMistake where
  /-- There are more than two stars. -/
  | wildcards
  /-- Two stars are not a whole name. -/
  | recursiveWildcards
  /-- A bracket is not closed, or nothing stands inside. -/
  | invalidRange
deriving DecidableEq, Repr

/-- The words for a mistake. -/
def PatternMistake.describe : PatternMistake → String
  | .wildcards => "wildcards are either regular `*` or recursive `**`"
  | .recursiveWildcards => "recursive wildcards must form a single path component"
  | .invalidRange => "invalid range pattern"

/-- A mistake, and after how many characters it is noticed. -/
structure PatternError where
  mistake : PatternMistake
  position : Nat
deriving DecidableEq, Repr

/-- The wording of an error. -/
def PatternError.message (e : PatternError) : String :=
  "Pattern syntax error near position " ++ toString e.position ++ ": " ++ e.mistake.describe

/-- A part of a pattern. -/
inductive PatternPart where
  | char (c : Char)
  /-- Any character. -/
  | any
  /-- Any characters. -/
  | several
  /-- Any directories. -/
  | directories
  /-- A character in one of the ranges. -/
  | within (ranges : List (Char × Char))
  /-- A character in none of the ranges. -/
  | outside (ranges : List (Char × Char))
deriving DecidableEq, Repr

namespace Pattern

/-! ## Reading -/

/-- The ranges between brackets. -/
def ranges : List Char → List (Char × Char)
  | a :: '-' :: b :: rest => (a, b) :: ranges rest
  | a :: rest => (a, a) :: ranges rest
  | [] => []

/-- What stands between brackets, and what stands behind them.  A closing bracket in front does not
close anything. -/
def bracketed? : List Char → Option (List Char × List Char)
  | [] => none
  | first :: rest =>
    match rest.dropWhile (· != ']') with
    | [] => none
    | _ :: behind => some (first :: rest.takeWhile (· != ']'), behind)

/-- The part behind an opening bracket, the number of characters it takes, and what stands behind
it. -/
def bracket? : List Char → Option (PatternPart × Nat × List Char)
  | '!' :: text =>
    (bracketed? text).map fun (inside, behind) =>
      (.outside (ranges inside), inside.length + 2, behind)
  | text =>
    (bracketed? text).map fun (inside, behind) =>
      (.within (ranges inside), inside.length + 1, behind)

/-- The parts of a pattern, with a bound on what is left of it.  `position` counts the characters
before, and `opening` says that a name begins here. -/
def parts : (bound position : Nat) → (opening : Bool) → List Char →
    Except PatternError (List PatternPart)
  | 0, _, _, _ | _, _, _, [] => .ok []
  | _ + 1, position, _, '*' :: '*' :: '*' :: _ => .error ⟨.wildcards, position + 2⟩
  | n + 1, position, opening, '*' :: '*' :: rest =>
    if !opening then .error ⟨.recursiveWildcards, position - 1⟩
    else
      match rest with
      | [] => .ok [.directories]
      | '/' :: rest => (parts n (position + 3) true rest).map (.directories :: ·)
      | _ => .error ⟨.recursiveWildcards, position + 2⟩
  | n + 1, position, _, '*' :: rest => (parts n (position + 1) false rest).map (.several :: ·)
  | n + 1, position, _, '?' :: rest => (parts n (position + 1) false rest).map (.any :: ·)
  | n + 1, position, _, '[' :: rest =>
    match bracket? rest with
    | some (part, length, behind) =>
      (parts n (position + 1 + length) false behind).map (part :: ·)
    | none => .error ⟨.invalidRange, position⟩
  | n + 1, position, _, c :: rest => (parts n (position + 1) (c == '/') rest).map (.char c :: ·)

/-- The parts of a pattern. -/
def read (text : List Char) : Except PatternError (List PatternPart) :=
  parts text.length 0 true text

/-- The text of parts that are all characters. -/
def literal? : List PatternPart → Option (List Char)
  | [] => some []
  | .char c :: rest => (literal? rest).map (c :: ·)
  | _ :: _ => none

/-! ## Matching -/

/-- A character can stand for a part. -/
def accepts (c : Char) : PatternPart → Bool
  | .char c' => c == c'
  | .any => true
  | .within ranges => ranges.any fun (a, b) => a ≤ c && c ≤ b
  | .outside ranges => !ranges.any fun (a, b) => a ≤ c && c ≤ b
  | .several | .directories => false

/-- A text, or what is left of it behind some of its characters, satisfies a predicate. -/
def someSuffix (p : List Char → Bool) : List Char → Bool
  | [] => p []
  | c :: rest => p (c :: rest) || someSuffix p rest

/-- A name matches parts. -/
def accept : List PatternPart → List Char → Bool
  | [], name => name.isEmpty
  | .several :: rest, name => someSuffix (accept rest) name
  | part :: rest, c :: name => accepts c part && accept rest name
  | _ :: _, [] => false

example : (read ['[', '!', ']', '-', 'a', ']', '*']).toOption
    = some [.outside [(']', 'a')], .several] := by decide
example : (read ['a', '*', '*']).toOption = none := by decide

end Pattern

end BodyCheck
