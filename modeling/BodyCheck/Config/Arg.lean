import BodyCheck.Json.Basic
import BodyCheck.Options

/-!
# Arguments in configurations

An argument is a literal, or an object that names a reference under the key `ref`, given once.
Pairs are a list of lists of two arguments, or an object of arguments, in which a repeated key keeps
its first place and its last value.  Both are read off a value that may hold repeated keys.
-/

namespace BodyCheck

/-- The values of a key among entries. -/
def valuesOf (key : String) (entries : List (String × Json)) : List Json :=
  (entries.filter (·.1 == key)).map Prod.snd

/-- The text of a string. -/
def textOf? : Json → Option String
  | .string s => some s
  | _ => none

/-- The port that a whole number below `2 ^ 16` stands for. -/
def portOf? : Json → Option UInt16
  | .number (.integer n) => if 0 ≤ n ∧ n < Nat.pow 2 16 then some (UInt16.ofNat n.toNat) else none
  | _ => none

/-- The argument a value stands for, with a way to read literals. -/
def Arg.ofJson? {α : Type} (literal? : Json → Option α) : Json → Option (Arg α)
  | .object entries =>
    match valuesOf "ref" entries with
    | [.string name] => some (.reference name)
    | _ => (literal? (.object entries)).map .literal
  | v => (literal? v).map .literal

/-- The text argument a value stands for. -/
def Arg.text? : Json → Option (Arg String) := Arg.ofJson? textOf?

/-- The port argument a value stands for. -/
def Arg.port? : Json → Option (Arg UInt16) := Arg.ofJson? portOf?

/-- The pair that a list of two arguments stands for. -/
def pairOf? : Json → Option Pair
  | .array [k, v] => do return (← Arg.text? k, ← Arg.text? v)
  | _ => none

/-- The pairs that elements stand for. -/
def pairsOfItems? : List Json → Option (List Pair)
  | [] => some []
  | v :: rest => do return (← pairOf? v) :: (← pairsOfItems? rest)

/-- The keys and arguments that entries stand for. -/
def argsOfEntries? : List (String × Json) → Option (List (String × Arg String))
  | [] => some []
  | (k, v) :: rest => do return (k, ← Arg.text? v) :: (← argsOfEntries? rest)

/-- The pairs a value stands for. -/
def pairsOf? : Json → Option (List Pair)
  | .array items => pairsOfItems? items
  | .object entries => do
    let args ← argsOfEntries? entries
    return (putEntries [] args).map fun (k, a) => (.literal k, a)
  | _ => none

example : pairsOf? (.object [("a", .string "1"), ("b", .object [("ref", .string "r")]),
    ("a", .string "2")]) = some [(.literal "a", .literal "2"), (.literal "b", .reference "r")] := by
  decide

end BodyCheck
