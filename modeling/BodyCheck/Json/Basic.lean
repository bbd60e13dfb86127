import BodyCheck.KeyedList
import BodyCheck.Number.Double

/-!
# JSON values

A `Json` is an ordered tree.  The entries of an object stand in a list, in the order of the text,
so a value can also hold repeated keys.  `Json.merged` removes the repetitions the way a document
is read: a repeated key keeps its first place and its last value.

A number is stored as a whole number or as a finite double.  Documents hold whole numbers from
`-2 ^ 63` to `2 ^ 64 - 1` only, all other numbers are doubles (`Number.InRange`).
-/

namespace BodyCheck

/-! ## Numbers -/

/-- A stored number. -/
inductive Number where
  /-- A whole number that was written without fraction and exponent. -/
  | integer (n : Int)
  /-- Any other number. -/
  | double (d : Double)
deriving DecidableEq, Repr

/-- A stored whole number fits in 64 bits, with or without a sign. -/
def Number.InRange : Number → Prop
  | .integer n => -(Nat.pow 2 63 : Int) ≤ n ∧ n < Nat.pow 2 64
  | .double _ => True

instance (n : Number) : Decidable n.InRange := by
  cases n <;> unfold Number.InRange <;> infer_instance

/-! ## Values -/

/-- A JSON value. -/
inductive Json where
  | null
  | bool (b : Bool)
  | number (n : Number)
  | string (s : String)
  | array (items : List Json)
  | object (entries : List (String × Json))
deriving Repr, Inhabited

/-- The six kinds of values. -/
inductive Kind where
  | string
  | number
  | boolean
  | null
  | object
  | array
deriving DecidableEq, Repr, Inhabited

/-- Objects and arrays hold other values. -/
def Kind.isContainer : Kind → Bool
  | .object | .array => true
  | _ => false

/-- The lowercase word for a kind. -/
def Kind.word : Kind → String
  | .string => "string"
  | .number => "number"
  | .boolean => "boolean"
  | .null => "null"
  | .object => "object"
  | .array => "array"

/-- The capitalised word for a kind. -/
def Kind.title : Kind → String
  | .string => "String"
  | .number => "Number"
  | .boolean => "Boolean"
  | .null => "Null"
  | .object => "Object"
  | .array => "Array"

namespace Json

/-- The kind of a value. -/
def kind : Json → Kind
  | .null => .null
  | .bool _ => .boolean
  | .number _ => .number
  | .string _ => .string
  | .array _ => .array
  | .object _ => .object

/-- The value is an object or an array. -/
def isContainer (v : Json) : Bool := v.kind.isContainer

/-- The value is a string, a number, a boolean or null. -/
def isScalar (v : Json) : Bool := !v.isContainer

/-! ## Equality -/

mutual

/-- Whether two values are equal. -/
def decEq : (a b : Json) → Decidable (a = b)
  | .null, .null => isTrue rfl
  | .bool a, .bool b => decidable_of_iff (a = b) (by simp)
  | .number a, .number b => decidable_of_iff (a = b) (by simp)
  | .string a, .string b => decidable_of_iff (a = b) (by simp)
  | .array a, .array b => match decEqItems a b with
    | isTrue h => isTrue (by rw [h])
    | isFalse h => isFalse (by simpa using h)
  | .object a, .object b => match decEqEntries a b with
    | isTrue h => isTrue (by rw [h])
    | isFalse h => isFalse (by simpa using h)
  | .null, .bool _ | .null, .number _ | .null, .string _ | .null, .array _ | .null, .object _
  | .bool _, .null | .bool _, .number _ | .bool _, .string _ | .bool _, .array _
  | .bool _, .object _ | .number _, .null | .number _, .bool _ | .number _, .string _
  | .number _, .array _ | .number _, .object _ | .string _, .null | .string _, .bool _
  | .string _, .number _ | .string _, .array _ | .string _, .object _ | .array _, .null
  | .array _, .bool _ | .array _, .number _ | .array _, .string _ | .array _, .object _
  | .object _, .null | .object _, .bool _ | .object _, .number _ | .object _, .string _
  | .object _, .array _ => isFalse (by simp)

/-- Whether two lists of elements are equal. -/
def decEqItems : (a b : List Json) → Decidable (a = b)
  | [], [] => isTrue rfl
  | a :: as, b :: bs => match decEq a b, decEqItems as bs with
    | isTrue h, isTrue hs => isTrue (by rw [h, hs])
    | isFalse h, _ => isFalse (by simp [h])
    | _, isFalse hs => isFalse (by simp [hs])
  | [], _ :: _ | _ :: _, [] => isFalse (by simp)

/-- Whether two lists of entries are equal. -/
def decEqEntries : (a b : List (String × Json)) → Decidable (a = b)
  | [], [] => isTrue rfl
  | (k, a) :: as, (l, b) :: bs => match decEq a b, decEqEntries as bs with
    | isTrue h, isTrue hs =>
      if hk : k = l then isTrue (by rw [hk, h, hs]) else isFalse (by simp [hk])
    | isFalse h, _ => isFalse (by simp [h])
    | _, isFalse hs => isFalse (by simp [hs])
  | [], _ :: _ | _ :: _, [] => isFalse (by simp)

end

instance : DecidableEq Json := decEq

/-! ## Repeated keys -/

mutual

/-- The value with every repeated key at its first place with its last value, at every depth. -/
def merged : Json → Json
  | .array items => .array (mergedItems items)
  | .object entries => .object (mergedEntries [] entries)
  | v => v

/-- The elements, each merged. -/
def mergedItems : List Json → List Json
  | [] => []
  | v :: rest => v.merged :: mergedItems rest

/-- The entries, each merged, put one after the other behind those before. -/
def mergedEntries (before : List (String × Json)) : List (String × Json) → List (String × Json)
  | [] => before
  | (k, v) :: rest => mergedEntries (putEntry k v.merged before) rest

end

mutual

/-- The value is one that a document can hold: keys are distinct within every object, and whole
numbers are in range. -/
def WellFormed : Json → Prop
  | .number n => n.InRange
  | .array items => WellFormedItems items
  | .object entries => (entries.map Prod.fst).Nodup ∧ WellFormedEntries entries
  | _ => True

/-- Every element is well formed. -/
def WellFormedItems : List Json → Prop
  | [] => True
  | v :: rest => v.WellFormed ∧ WellFormedItems rest

/-- Every value among the entries is well formed. -/
def WellFormedEntries : List (String × Json) → Prop
  | [] => True
  | (_, v) :: rest => v.WellFormed ∧ WellFormedEntries rest

end

mutual

/-- The number of containers that are open around the deepest place of a value. -/
def depth : Json → Nat
  | .array items => depthItems items + 1
  | .object entries => depthEntries entries + 1
  | _ => 0

/-- The greatest depth among elements. -/
def depthItems : List Json → Nat
  | [] => 0
  | v :: rest => max v.depth (depthItems rest)

/-- The greatest depth among entries. -/
def depthEntries : List (String × Json) → Nat
  | [] => 0
  | (_, v) :: rest => max v.depth (depthEntries rest)

end

example : merged (.object [("b", .null), ("a", .bool true), ("b", .bool false)])
    = .object [("b", .bool false), ("a", .bool true)] := by decide

end Json

end BodyCheck
