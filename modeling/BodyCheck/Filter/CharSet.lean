import BodyCheck.Number.Digits

/-!
# Sets of characters

A set of characters is a list of ranges of their numbers.  Ranges may overlap and stand in any
order, and numbers that are those of no character do no harm.
-/

namespace BodyCheck

namespace Filter

/-- A set of characters, given by ranges of numbers with both ends included. -/
structure CharSet where
  ranges : List (Nat × Nat)
deriving Repr, DecidableEq

namespace CharSet

/-- The character belongs to the set. -/
def has (s : CharSet) (ch : Char) : Bool :=
  s.ranges.any fun (low, high) => low ≤ ch.toNat && ch.toNat ≤ high

/-- The characters from one to another. -/
def range (low high : Char) : CharSet := ⟨[(low.toNat, high.toNat)]⟩

/-- The set of one character. -/
def single (ch : Char) : CharSet := range ch ch

/-- The characters of either set. -/
def union (s t : CharSet) : CharSet := ⟨s.ranges ++ t.ranges⟩

/-- A range put among ranges that are sorted by where they begin. -/
def insertRange (r : Nat × Nat) : List (Nat × Nat) → List (Nat × Nat)
  | [] => [r]
  | r' :: rest => if r.1 ≤ r'.1 then r :: r' :: rest else r' :: insertRange r rest

/-- The greatest number of a character. -/
def lastNumber : Nat := 0x10FFFF

/-- The numbers from a place on that lie in none of the ranges, which are sorted by where they
begin. -/
def gaps (start : Nat) : List (Nat × Nat) → List (Nat × Nat)
  | [] => if start ≤ lastNumber then [(start, lastNumber)] else []
  | (low, high) :: rest =>
    let more := gaps (max start (high + 1)) rest
    if start < low then (start, low - 1) :: more else more

/-- The characters that do not belong to the set. -/
def complement (s : CharSet) : CharSet := ⟨gaps 0 (s.ranges.foldr insertRange [])⟩

/-- The part of a range within other bounds, moved. -/
def movedPart (low high : Char) (move : Nat → Nat) (r : Nat × Nat) : Option (Nat × Nat) :=
  let first := max low.toNat r.1
  let last := min high.toNat r.2
  if first ≤ last then some (move first, move last) else none

/-- The set with every letter of ASCII in both cases. -/
def bothCases (s : CharSet) : CharSet :=
  ⟨s.ranges ++ s.ranges.filterMap (movedPart 'A' 'Z' (· + 32))
    ++ s.ranges.filterMap (movedPart 'a' 'z' (· - 32))⟩

/-! ## Named sets -/

/-- All characters. -/
def all : CharSet := ⟨[(0, lastNumber)]⟩

/-- The decimal digits. -/
def digits : CharSet := range '0' '9'

/-- The letters in upper case. -/
def upper : CharSet := range 'A' 'Z'

/-- The letters in lower case. -/
def lower : CharSet := range 'a' 'z'

/-- The letters. -/
def letters : CharSet := upper.union lower

/-- The characters of words. -/
def wordChars : CharSet := (digits.union letters).union (single '_')

/-- The blanks of ASCII. -/
def blanks : CharSet := (range '\t' '\r').union (single ' ')

/-- The printed characters of ASCII other than the blank. -/
def visible : CharSet := range '!' '~'

/-- The set that a word between colons stands for. -/
def named? : String → Option CharSet
  | "alnum" => some (digits.union letters)
  | "alpha" => some letters
  | "ascii" => some ⟨[(0, 127)]⟩
  | "blank" => some ((single '\t').union (single ' '))
  | "cntrl" => some ⟨[(0, 31), (127, 127)]⟩
  | "digit" => some digits
  | "graph" => some visible
  | "lower" => some lower
  | "print" => some (visible.union (single ' '))
  | "punct" => some ⟨[(33, 47), (58, 64), (91, 96), (123, 126)]⟩
  | "space" => some blanks
  | "upper" => some upper
  | "word" => some wordChars
  | "xdigit" => some (digits.union ((range 'A' 'F').union (range 'a' 'f')))
  | _ => none

/-- The set that a letter behind a backslash stands for. -/
def lettered? : Char → Option CharSet
  | 'd' => some digits
  | 's' => some blanks
  | 'w' => some wordChars
  | 'D' => some digits.complement
  | 'S' => some blanks.complement
  | 'W' => some wordChars.complement
  | _ => none

example : digits.complement.has '/' ∧ digits.complement.has 'é' ∧ ¬ digits.complement.has '5' := by
  decide
example : (single 'K').bothCases.has 'k' := by decide

end CharSet

end Filter

end BodyCheck
