import BodyCheck.Filter.Arithmetic

/-!
# Parts of values

Reading and updating the parts of a value: an element by number or an entry by key, a range of an
array or a text, and all elements or entries.  Negative numbers count from the end.  A missing entry
or element is null when it is read.

An update gives any number of replacements for an old part.  The first one counts, except for all
elements of an array, each of which becomes all of its replacements; no replacement removes the
part.  An entry that is removed leaves its place to the last one.
-/

namespace BodyCheck

namespace Filter

/-- Which part of a value is meant. -/
inductive Selector (α : Type) where
  /-- The part at an index or under a key. -/
  | index (i : α)
  /-- The elements from an index up to another one. -/
  | range (first last : Option α)
  /-- All elements or entries. -/
  | all
deriving Repr

/-- An update of a part: the first of its replacements, and all of them. -/
structure Replacement where
  /-- The first replacement of a part, if there is one. -/
  first : Value → Except Stop (Option Value)
  /-- All replacements of a part. -/
  all : Value → Except Stop (List Value)

namespace Value

/-! ## Indices -/

/-- An index as a place from the front, unless it lies before the front. -/
def place? (i : Int) (length : Nat) : Option Nat :=
  if 0 ≤ i then some i.toNat else if i.natAbs ≤ length then some (length - i.natAbs) else none

/-- The place of an element. -/
def elementPlace? (i : Int) (length : Nat) : Option Nat :=
  (place? i length).filter (· < length)

/-- A bound of a range as a place from the front, cut off at both ends. -/
def boundPlace (i : Option Int) (length default : Nat) : Nat :=
  match i with
  | none => default
  | some i => min ((place? i length).getD 0) length

/-- The integer a value is. -/
def int? (v : Value) : Except Failure Int :=
  match v with
  | .int n => .ok n
  | _ => .error (.role v .integer)

/-- The integer a bound is, if there is a bound. -/
def bound? (v : Option Value) : Except Failure (Option Int) :=
  match v with
  | none => .ok none
  | some v => do return some (← v.int?)

/-- The part of a list in a range, with what stands before and behind it. -/
def cut {α : Type} (first last : Option Int) (l : List α) : List α × List α × List α :=
  let start := boundPlace first l.length 0
  let stop := boundPlace last l.length l.length
  let count := stop - start
  (l.take start, (l.drop start).take count, l.drop (start + count))

/-! ## Reading -/

/-- The elements of a value in a range. -/
def range (v : Value) (first last : Option Value) : Except Failure Value :=
  match v with
  | .array items => do return .array (cut (← bound? first) (← bound? last) items).2.1
  | .string s => do
    return .string (String.ofList (cut (← bound? first) (← bound? last) s.toList).2.1)
  | _ => .error (.role v .range)

/-- The part of a value at an index. -/
def index (v i : Value) : Except Failure Value :=
  match v, i with
  | .array items, .int n =>
    .ok (((elementPlace? n items.length).bind (items[·]?)).getD .null)
  | .object entries, .string key => .ok ((entries.lookup key).getD .null)
  | _, _ => .error (.indexing v i)

/-- All elements or entries of a value. -/
def children (v : Value) : Except Failure (List Value) :=
  match v with
  | .array items => .ok items
  | .object entries => .ok (entries.map (·.2))
  | _ => .error (.role v .iterable)

/-- The parts of a value that are meant. -/
def select (v : Value) : Selector Value → Except Failure (List Value)
  | .index i => do return [← v.index i]
  | .range first last => do return [← v.range first last]
  | .all => v.children

/-! ## Updating -/

/-- Entries without a key; the last entry takes its place. -/
def removeEntry (key : String) (entries : List (String × Value)) : List (String × Value) :=
  match entries.getLast? with
  | none => []
  | some last =>
    if last.1 = key then entries.dropLast
    else entries.dropLast.map fun e => if e.1 = key then last else e

/-- Elements with the one at a place replaced or removed. -/
def replaceAt (n : Nat) (replacement : Option Value) (items : List Value) : List Value :=
  items.take n ++ replacement.toList ++ items.drop (n + 1)

/-- Entries with every value replaced or removed. -/
def replaceEntries (f : Replacement) :
    List (String × Value) → Except Stop (List (String × Value))
  | [] => .ok []
  | (k, v) :: rest => do
    let new ← f.first v
    let rest ← replaceEntries f rest
    return (new.map (k, ·)).toList ++ rest

/-- Elements, each of them replaced by any number of others. -/
def replaceItems (f : Replacement) : List Value → Except Stop (List Value)
  | [] => .ok []
  | v :: rest => do return (← f.all v) ++ (← replaceItems f rest)

/-- The failure of an update: the value stays as it is if the part need not be there. -/
def spare (optional : Bool) (v : Value) (f : Failure) : Except Stop Value :=
  if optional then .ok v else .error (.failed f)

/-- A value with the part at an index updated. -/
def updateIndex (optional : Bool) (v i : Value) (f : Replacement) : Except Stop Value :=
  match v, i with
  | .object entries, .string key => do
    let old := entries.lookup key
    match ← f.first (old.getD .null) with
    | some new => return .object (putEntry key new entries)
    | none => return .object (if old.isSome then removeEntry key entries else entries)
  | .object _, _ => spare optional v (.role i .string)
  | .array items, .int n =>
    match elementPlace? n items.length with
    | none => spare optional v (.outOfBounds i)
    | some n => do
      let new ← f.first ((items[n]?).getD .null)
      return .array (replaceAt n new items)
  | .array _, _ => spare optional v (.role i .integer)
  | _, _ => spare optional v (.role v .iterable)

/-- A value with the elements in a range updated. -/
def updateRange (optional : Bool) (v : Value) (first last : Option Value)
    (f : Replacement) : Except Stop Value :=
  match v with
  | .array items =>
    match bound? first, bound? last with
    | .error e, _ | .ok _, .error e => spare optional v e
    | .ok first, .ok last => do
      let (before, middle, behind) := cut first last items
      match ← f.first (.array middle) with
      | none => return .array (before ++ behind)
      | some (.array new) => return .array (before ++ new ++ behind)
      | some new => throw (.failed (.role new .array))
  | _ => spare optional v (.role v .array)

/-- A value with the parts that are meant updated. -/
def update (optional : Bool) (v : Value) (f : Replacement) :
    Selector Value → Except Stop Value
  | .index i => v.updateIndex optional i f
  | .range first last => v.updateRange optional first last f
  | .all =>
    match v with
    | .array items => do return .array (← replaceItems f items)
    | .object entries => do return .object (← replaceEntries f entries)
    | _ => spare optional v (.role v .iterable)

end Value

end Filter

end BodyCheck
