import BodyCheck.Filter.Failure

/-!
# Arithmetic of filters

Integers are added, subtracted and multiplied modulo 2 ^ 64, all other numbers as doubles; a
quotient is always a double.  The signs mean something for other values too: texts, lists and
objects are joined by `+`, elements are removed by `-`, objects are merged and texts repeated by
`*`, and a text is split by `/`.  Null is neutral for `+`.
-/

namespace BodyCheck

namespace Filter

/-! ## Texts -/

/-- What follows a text at the front of another one. -/
def stripFront? : List Char → List Char → Option (List Char)
  | [], s => some s
  | _ :: _, [] => none
  | p :: ps, c :: cs => if p = c then stripFront? ps cs else none

/-- The pieces between the occurrences of a separator that is not empty.  The bound is the length of
the text; the piece before the text is given in reverse. -/
def piecesFrom (separator : List Char) : Nat → List Char → List Char → List (List Char)
  | 0, piece, _ => [piece.reverse]
  | n + 1, piece, s =>
    match stripFront? separator s with
    | some rest => piece.reverse :: piecesFrom separator n [] rest
    | none =>
      match s with
      | [] => [piece.reverse]
      | c :: rest => piecesFrom separator n (c :: piece) rest

/-- A text split at a separator.  The empty text has no pieces, and the empty separator stands
between any two characters. -/
def split (s separator : String) : List String :=
  if s.isEmpty then []
  else if separator.isEmpty then s.toList.map fun c => String.ofList [c]
  else (piecesFrom separator.toList (s.length + 1) [] s.toList).map String.ofList

/-! ## Objects -/

/-- Entries with those of another object merged into them; objects under one key are merged in turn,
up to the given depth. -/
def mergeEntries : Nat → List (String × Value) → List (String × Value) → List (String × Value)
  | 0, entries, others => putEntries entries others
  | n + 1, entries, others =>
    others.foldl (fun entries (k, v) =>
      match entries.lookup k, v with
      | some (.object inner), .object other =>
        putEntry k (.object (mergeEntries n inner other)) entries
      | _, _ => putEntry k v entries) entries

namespace Value

/-! ## Numbers -/

/-- The integer of 64 bits with a sign that differs from a number by a multiple of 2 ^ 64. -/
def wrapped (n : Int) : Value := .int (n.bmod (Nat.pow 2 64))

/-- An operation on two numbers; one that has no result among the integers is done on doubles. -/
def numeric (onInts : Int → Int → Option Int) (onReals : Extended → Extended → Extended)
    (a b : Value) : Option Value :=
  match a, b with
  | .int m, .int n =>
    match onInts m n with
    | some r => some (wrapped r)
    | none => some (.real (onReals (.ofInt m) (.ofInt n)))
  | _, _ => do return .real (onReals (← a.real?) (← b.real?))

/-! ## Operations -/

/-- The sum of two values. -/
def add (a b : Value) : Except Failure Value :=
  match a, b with
  | .null, v | v, .null => .ok v
  | .string s, .string t => .ok (.string (s ++ t))
  | .array as, .array bs => .ok (.array (as ++ bs))
  | .object as, .object bs => .ok (.object (putEntries as bs))
  | _, _ =>
    match numeric (fun m n => some (m + n)) Extended.add a b with
    | some v => .ok v
    | none => .error (.arithmetic a .add b)

/-- The difference of two values. -/
def subtract (a b : Value) : Except Failure Value :=
  match a, b with
  | .array as, .array bs => .ok (.array (as.filter fun v => !bs.any v.same))
  | _, _ =>
    match numeric (fun m n => some (m - n)) Extended.sub a b with
    | some v => .ok v
    | none => .error (.arithmetic a .subtract b)

/-- A text repeated; there is none for less than once. -/
def repeated (s : String) (n : Int) : Value :=
  if 0 < n then .string (String.join (List.replicate n.toNat s)) else .null

/-- The product of two values. -/
def multiply (a b : Value) : Except Failure Value :=
  match a, b with
  | .string s, .int n | .int n, .string s => .ok (repeated s n)
  | .object as, .object bs => .ok (.object (mergeEntries (Value.object bs).depth as bs))
  | _, _ =>
    match numeric (fun m n => some (m * n)) Extended.mul a b with
    | some v => .ok v
    | none => .error (.arithmetic a .multiply b)

/-- The quotient of two values. -/
def divide (a b : Value) : Except Failure Value :=
  match a, b with
  | .string s, .string t => .ok (.array ((split s t).map .string))
  | _, _ =>
    match numeric (fun _ _ => none) Extended.div a b with
    | some v => .ok v
    | none => .error (.arithmetic a .divide b)

/-- The remainder of two values.  An integer has none by zero. -/
def remainder (a b : Value) : Except Failure Value :=
  match a, b with
  | .int _, .int 0 => .error (.arithmetic a .remainder b)
  | _, _ =>
    match numeric (fun m n => some (m.tmod n)) Extended.rem a b with
    | some v => .ok v
    | none => .error (.arithmetic a .remainder b)

/-- The operation of a sign. -/
def calculate : Arithmetic → Value → Value → Except Failure Value
  | .add => add
  | .subtract => subtract
  | .multiply => multiply
  | .divide => divide
  | .remainder => remainder

/-- A number with the other sign. -/
def negated (v : Value) : Except Failure Value :=
  match v with
  | .int n => .ok (wrapped (-n))
  | _ =>
    match v.real? with
    | some x => .ok (.real x.neg)
    | none => .error (.role v .number)

end Value

end Filter

end BodyCheck
