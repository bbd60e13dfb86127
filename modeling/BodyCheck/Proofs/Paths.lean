import BodyCheck.Path

/-!
# Composing and reading paths

A `Path.Part` leads from a container to one of its children, and a list of parts is an address.
`Path.along` composes the path at the end of an address, part by part, and `Path.read?` reads a path
back.

A path is cut at its marks, which are the dots and the opening brackets.  What stands in front of
the first mark is a key of the root, if the root is an object, and what starts with a mark is a key
or an index.  If no key holds a mark, a path is cut exactly where parts were joined, so reading
gives back the address that it was composed from (`Path.read?_along`).  Brackets that close, digits
and empty keys need no care.
-/

namespace BodyCheck

namespace Path

/-! ## Parts and addresses -/

/-- What leads from a container to one of its children. -/
inductive Part where
  /-- The key of an entry. -/
  | key (name : String)
  /-- The index of an element. -/
  | index (i : Nat)
deriving DecidableEq, Repr

/-- The key that a child is listed under. -/
def Part.text : Part → String
  | .key name => name
  | .index i => indexKey i

/-- The part leads into an array. -/
def Part.isIndex : Part → Bool
  | .key _ => false
  | .index _ => true

/-- The path at the end of an address, from the path of the node where the address starts. -/
def along (base : Option String) (address : List Part) : Option String :=
  address.foldl (fun parent part => some (compose parent part.text part.isIndex)) base

@[simp] theorem along_nil (base : Option String) : along base [] = base := rfl

@[simp] theorem along_concat (base : Option String) (address : List Part) (part : Part) :
    along base (address ++ [part]) =
      some (compose (along base address) part.text part.isIndex) := by
  simp [along]

/-- Only the empty address ends where no path is. -/
theorem eq_nil_of_along_eq_none {base : Option String} {address : List Part}
    (h : along base address = none) : address = [] := by
  rcases List.eq_nil_or_concat address with rfl | ⟨front, part, rfl⟩
  · rfl
  · rw [List.concat_eq_append, along_concat] at h
    cases h

theorem compose_index (parent : Option String) (i : Nat) :
    compose parent (indexKey i) true = parent.getD "" ++ "[" ++ decimalText i ++ "]" := by
  cases parent with
  | none => simp [indexKey]
  | some parent => simp [indexKey, String.append_assoc]

/-- The path of a child is longer than that of its parent. -/
theorem length_lt_compose (parent : String) (part : Part) :
    parent.length < (compose (some parent) part.text part.isIndex).length := by
  cases part with
  | key name =>
      have dot : ".".length = 1 := rfl
      simp only [Part.isIndex, compose_object, String.length_append]
      omega
  | index i =>
      have bracket : "[".length = 1 := rfl
      simp only [Part.isIndex, Part.text, indexKey, compose_array, String.length_append]
      omega

/-! ## Reading -/

/-- Marks part a path: a dot stands before a key and a bracket before an index. -/
def isMark (ch : Char) : Bool := ch == '.' || ch == '['

/-- A key holds no marks. -/
def IsPlain (name : String) : Prop := ∀ ch ∈ name.toList, isMark ch = false

instance (name : String) : Decidable (IsPlain name) :=
  decidable_of_iff (name.toList.all (!isMark ·)) (by simp [IsPlain])

/-- The text in front of the first mark, and the pieces that start with a mark. -/
def cut : List Char → List Char × List (List Char)
  | [] => ([], [])
  | ch :: rest =>
    let (front, pieces) := cut rest
    if isMark ch then ([], (ch :: front) :: pieces) else (ch :: front, pieces)

/-- The part that a piece stands for. -/
def Part.ofPiece? : List Char → Option Part
  | '.' :: name => some (.key (String.ofList name))
  | '[' :: rest =>
    let digits := rest.dropLast
    if isDigits digits && rest == digits ++ [']'] then some (.index (digitsValue digits)) else none
  | _ => none

/-- The parts that pieces stand for. -/
def partsOf? : List (List Char) → Option (List Part)
  | [] => some []
  | piece :: rest => do
    let part ← Part.ofPiece? piece
    let parts ← partsOf? rest
    return part :: parts

/-- The address that a path stands for in a document whose root is an array or an object. -/
def read? (rootIsArray : Bool) (path : String) : Option (List Part) :=
  let (front, pieces) := cut path.toList
  if rootIsArray then
    if front.isEmpty then partsOf? pieces else none
  else (partsOf? pieces).map (.key (String.ofList front) :: ·)

/-! ## Writing -/

/-- The piece that a part adds to a path. -/
def Part.piece : Part → List Char
  | .key name => '.' :: name.toList
  | .index i => '[' :: decimalDigits i ++ [']']

/-- The part adds no marks other than its first one. -/
def Part.IsPlain : Part → Prop
  | .key name => Path.IsPlain name
  | .index _ => True

theorem toList_compose (parent : String) (part : Part) :
    (compose (some parent) part.text part.isIndex).toList = parent.toList ++ part.piece := by
  cases part with
  | key name => simp [Part.text, Part.isIndex, Part.piece]
  | index i => simp [Part.text, Part.isIndex, Part.piece, indexKey, decimalText]

/-- The path at the end of an address: the path at its start, followed by the pieces. -/
theorem along_some (start : String) (address : List Part) :
    ∃ path, along (some start) address = some path ∧
      path.toList = start.toList ++ (address.map Part.piece).flatten := by
  induction address generalizing start with
  | nil => exact ⟨start, rfl, by simp⟩
  | cons part rest ih =>
      obtain ⟨path, end_at, text⟩ := ih (compose (some start) part.text part.isIndex)
      refine ⟨path, end_at, ?_⟩
      rw [text, toList_compose, List.map_cons, List.flatten_cons, List.append_assoc]

/-! ## Reading what was written -/

/-- Text without marks stays in front. -/
theorem cut_append {front : List Char} (plain : ∀ ch ∈ front, isMark ch = false)
    (text : List Char) : cut (front ++ text) = (front ++ (cut text).1, (cut text).2) := by
  induction front with
  | nil => rfl
  | cons ch front ih =>
      rw [List.forall_mem_cons] at plain
      rw [List.cons_append, cut, ih plain.2, plain.1]
      rfl

/-- A mark starts a piece. -/
theorem cut_cons_of_isMark {ch : Char} (mark : isMark ch = true) (text : List Char) :
    cut (ch :: text) = ([], (ch :: (cut text).1) :: (cut text).2) := by
  simp [cut, mark]

theorem isMark_eq_false_of_isDigit {ch : Char} (digit : ch.isDigit = true) :
    isMark ch = false := by
  cases mark : isMark ch with
  | false => rfl
  | true =>
      rw [isMark, Bool.or_eq_true, beq_iff_eq, beq_iff_eq] at mark
      rcases mark with rfl | rfl
      · exact absurd digit (by decide)
      · exact absurd digit (by decide)

/-- A piece is a mark followed by text without marks. -/
theorem Part.exists_piece_eq {part : Part} (plain : part.IsPlain) :
    ∃ ch body, part.piece = ch :: body ∧ isMark ch = true ∧ ∀ x ∈ body, isMark x = false := by
  cases part with
  | key name => exact ⟨'.', name.toList, rfl, rfl, plain⟩
  | index i =>
      refine ⟨'[', decimalDigits i ++ [']'], rfl, rfl, ?_⟩
      intro x hx
      rcases List.mem_append.mp hx with digit | bracket
      · have digits := isDigits_decimalDigits i
        rw [isDigits, Bool.and_eq_true, List.all_eq_true] at digits
        exact isMark_eq_false_of_isDigit (digits.2 x digit)
      · rw [List.mem_singleton.mp bracket]
        rfl

/-- Pieces are cut where they were joined. -/
theorem cut_flatten {address : List Part} (plain : ∀ part ∈ address, part.IsPlain) :
    cut (address.map Part.piece).flatten = ([], address.map Part.piece) := by
  induction address with
  | nil => rfl
  | cons part rest ih =>
      rw [List.forall_mem_cons] at plain
      obtain ⟨ch, body, piece, mark, body_plain⟩ := Part.exists_piece_eq plain.1
      rw [List.map_cons, List.flatten_cons, piece, List.cons_append, cut_cons_of_isMark mark,
        cut_append body_plain, ih plain.2, List.append_nil]

@[simp] theorem Part.ofPiece?_piece (part : Part) : Part.ofPiece? part.piece = some part := by
  cases part with
  | key name => simp [Part.piece, Part.ofPiece?]
  | index i => simp [Part.piece, Part.ofPiece?]

@[simp] theorem partsOf?_pieces (address : List Part) :
    partsOf? (address.map Part.piece) = some address := by
  induction address with
  | nil => rfl
  | cons part rest ih => simp [partsOf?, ih]

/-- Reading a path gives back the address that it was composed from. -/
theorem read?_along {part : Part} {rest : List Part} {path : String}
    (plain : ∀ x ∈ part :: rest, x.IsPlain) (h : along none (part :: rest) = some path) :
    read? part.isIndex path = some (part :: rest) := by
  obtain ⟨path', end_at, text⟩ := along_some part.text rest
  have same : some path' = some path := end_at.symm.trans h
  rw [Option.some.injEq] at same
  subst same
  rw [List.forall_mem_cons] at plain
  cases part with
  | key name =>
      have cut_path : cut path'.toList = (name.toList, rest.map Part.piece) := by
        rw [text, Part.text, cut_append plain.1, cut_flatten plain.2, List.append_nil]
      simp [read?, Part.isIndex, cut_path]
  | index i =>
      have front : (Part.index i).text.toList = (Part.index i).piece := by
        simp [Part.text, Part.piece, indexKey, decimalText]
      have cut_path : cut path'.toList = ([], (Part.index i :: rest).map Part.piece) := by
        rw [text, front, ← List.flatten_cons, ← List.map_cons]
        exact cut_flatten (List.forall_mem_cons.mpr plain)
      simp only [read?, Part.isIndex, cut_path, partsOf?_pieces]
      rfl

example : read? true "[0]..a][12]" = some [.index 0, .key "", .key "a]", .index 12] := by decide

end Path

end BodyCheck
