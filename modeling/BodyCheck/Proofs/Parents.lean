import BodyCheck.Proofs.Addresses
import BodyCheck.Proofs.Placement
import Mathlib.Data.List.Induction

/-!
# Documents at a path

A document can be listed as the part of another one that lies at a path.  Then every parent stands
below that path (`Node.field_some`), and the paths of the nodes are those of the document behind it
(`Node.path_some`).  But nobody says whether the document itself is an array.

So the first pass takes the elements of an array at the root for entries, and those of an array
inside it as well, as long as no key is in between (`Node.isTop`): no container is known at their
parents.  Behind a key everything is placed at its path again (`Json.placed_fields_some`).
-/

namespace BodyCheck

open BodyCheck.Path (Part)

/-! ## Paths below a path -/

namespace Path

/-- The place of what had a path, or none, at the root, if the root lies at a path. -/
def below (start : String) (array : Bool) : Option String → String
  | none => start
  | some path => compose (some start) path array

theorem compose_some_inj {start path other : String} {array : Bool} :
    compose (some start) path array = compose (some start) other array ↔ path = other := by
  cases array <;> simp

/-- The root itself lies where no node below it can lie. -/
theorem below_eq_iff {start path : String} {array : Bool} (h : array = true → path ≠ "")
    {parent : Option String} :
    below start array parent = compose (some start) path array ↔ parent = some path := by
  cases parent with
  | none =>
      have other : start ≠ compose (some start) path array := by
        intro same
        have lengths := congrArg String.length same
        cases array with
        | false =>
            have dot : ".".length = 1 := rfl
            simp only [compose_object, String.length_append] at lengths
            omega
        | true =>
            simp only [compose_array, String.length_append] at lengths
            exact h rfl (String.length_eq_zero_iff.mp (by omega))
      simp [below, other]
  | some parent => rw [below, compose_some_inj, Option.some.injEq]

/-- An address leads below the path at which it starts. -/
theorem along_some_eq_below {start : String} {array : Bool} {address : List Part}
    (root : ∀ part ∈ address.head?, part.isIndex = array) :
    along (some start) address = some (below start array (along none address)) := by
  induction address using List.reverseRecOn with
  | nil => rfl
  | append_singleton front part ih =>
      cases front with
      | nil =>
          have first : part.isIndex = array := root part rfl
          rw [along_concat, along_concat, first]
          rfl
      | cons first front =>
          have above := ih root
          obtain ⟨path, text⟩ : ∃ path, along none (first :: front) = some path := by
            cases h : along none (first :: front) with
            | none => cases eq_nil_of_along_eq_none h
            | some path => exact ⟨path, rfl⟩
          rw [along_concat, along_concat, above, text]
          cases array <;> cases part <;>
            simp [below, Part.isIndex, String.append_assoc]

/-- A bracket ends the digits of an index. -/
theorem decimalDigits_append_inj {i j : Nat} {rest more : List Char}
    (h : decimalDigits i ++ ']' :: rest = decimalDigits j ++ ']' :: more) :
    i = j ∧ rest = more := by
  have digits : ∀ (k : Nat) (rest : List Char),
      (decimalDigits k ++ ']' :: rest).takeWhile Char.isDigit = decimalDigits k := by
    intro k rest
    have all := isDigits_decimalDigits k
    rw [isDigits, Bool.and_eq_true, List.all_eq_true] at all
    rw [List.takeWhile_append_of_pos all.2, List.takeWhile_cons_of_neg (by decide),
      List.append_nil]
  have same : decimalDigits i = decimalDigits j := by rw [← digits i rest, h, digits]
  refine ⟨?_, ?_⟩
  · rw [← digitsValue_decimalDigits i, same, digitsValue_decimalDigits]
  · rw [same] at h
    exact (List.cons.inj (List.append_cancel_left h)).2

/-- Indices at the front of a path are read off, whatever follows them. -/
theorem exists_eq_append {front : List Part} (indices : ∀ part ∈ front, part.isIndex)
    {address : List Part} {text : List Char}
    (h : (address.map Part.piece).flatten = (front.map Part.piece).flatten ++ text) :
    ∃ rest, address = front ++ rest ∧ (rest.map Part.piece).flatten = text := by
  induction front generalizing address with
  | nil => exact ⟨address, rfl, h⟩
  | cons part front ih =>
      rw [List.forall_mem_cons] at indices
      cases part with
      | key name => cases indices.1
      | index i =>
          cases address with
          | nil => cases h
          | cons first address =>
              cases first with
              | key name => cases h
              | index j =>
                  simp only [List.map_cons, List.flatten_cons, Part.piece, List.cons_append,
                    List.append_assoc, List.nil_append, List.cons.injEq, true_and] at h
                  obtain ⟨rfl, behind⟩ := decimalDigits_append_inj h
                  obtain ⟨rest, rfl, text⟩ := ih indices.2 behind
                  exact ⟨rest, rfl, text⟩

/-- An address of indices is read back from its path. -/
theorem eq_of_along_eq {start : String} {address front : List Part}
    (indices : ∀ part ∈ front, part.isIndex)
    (h : along (some start) address = along (some start) front) : address = front := by
  obtain ⟨path, end_at, text⟩ := along_some start address
  obtain ⟨other, end_at', text'⟩ := along_some start front
  rw [end_at, end_at', Option.some.injEq] at h
  rw [h, text', List.append_cancel_left_eq] at text
  obtain ⟨rest, rfl, nothing⟩ := exists_eq_append indices
    (text.symm.trans (List.append_nil _).symm)
  cases rest with
  | nil => exact List.append_nil front
  | cons part rest => cases part <;> cases nothing

end Path

/-- The field with its parent moved below a path. -/
def Field.below (start : String) (array : Bool) (f : Field) : Field :=
  { f with parent := some (Path.below start array f.parent) }

/-! ## Nodes below a path -/

namespace Json

/-- The address of a node inside a value goes on from that of the value, into an array exactly if
the value is one. -/
theorem exists_part_of_mem_nodes {v : Json} {above : List Part} {n : Node} (h : n ∈ v.nodes above) :
    ∃ part rest, n.address = above ++ part :: rest ∧ part.isIndex = (v.kind == .array) := by
  induction v using childInduction generalizing above with
  | parent v ih =>
      obtain ⟨part, w, hc, rfl | hn⟩ := mem_nodes_iff.mp h
      · exact ⟨part, [], rfl, isIndex_of_mem_children hc⟩
      · obtain ⟨next, rest, address, -⟩ := ih part w hc hn
        refine ⟨part, next :: rest, ?_, isIndex_of_mem_children hc⟩
        rw [address, List.append_assoc, List.singleton_append]

/-- The first part of an address leads into an array exactly if the root is one. -/
theorem isIndex_of_mem_head? {v : Json} {n : Node} (h : n ∈ v.nodes []) :
    ∀ part ∈ n.address.head?, part.isIndex = (v.kind == .array) := by
  obtain ⟨part, rest, address, first⟩ := exists_part_of_mem_nodes h
  rw [address]
  intro part here
  cases here
  exact first

theorem at?_of_isIndex {v w : Json} {part : Part} (h : (part, w) ∈ v.children)
    (index : part.isIndex) : v.at? part = some w := by
  rcases mem_children_iff.mp h with ⟨items, i, rfl, rfl, hw⟩ | ⟨entries, name, rfl, rfl, -⟩
  · exact hw
  · cases index

/-- Indices lead to a node, or to a value around it, also where the entries of an object share
their keys. -/
theorem exists_follow?_of_isIndex {v : Json} {above front rest : List Part} {n : Node}
    (h : n ∈ v.nodes above) (address : n.address = above ++ (front ++ rest))
    (indices : ∀ part ∈ front, part.isIndex) :
    ∃ w, v.follow? front = some w ∧
      (rest = [] ∧ w = n.value ∨ n ∈ w.nodes (above ++ front)) := by
  induction front generalizing v above with
  | nil => exact ⟨v, rfl, .inr (by rwa [List.append_nil])⟩
  | cons part front ih =>
      rw [List.forall_mem_cons] at indices
      obtain ⟨first, w, hc, rfl | hn⟩ := mem_nodes_iff.mp h
      · have only := List.append_cancel_left address
        rw [List.cons_append, List.cons.injEq] at only
        obtain ⟨rfl, nothing⟩ := only
        obtain ⟨rfl, rfl⟩ := List.append_eq_nil_iff.mp nothing.symm
        refine ⟨w, ?_, .inl ⟨rfl, rfl⟩⟩
        rw [follow?, at?_of_isIndex hc indices.1]
        rfl
      · obtain ⟨next, more, deeper, -⟩ := exists_part_of_mem_nodes hn
        rw [address, List.append_assoc, List.append_cancel_left_eq, List.cons_append,
          List.singleton_append, List.cons.injEq] at deeper
        obtain ⟨rfl, -⟩ := deeper
        rw [List.cons_append, List.append_cons] at address
        obtain ⟨u, leads, inside⟩ := ih hn address indices.2
        refine ⟨u, ?_, ?_⟩
        · rw [follow?, at?_of_isIndex hc indices.1]
          exact leads
        · rwa [List.append_cons above part front]

section

variable {v : Json} {front : List Part} (indices : ∀ part ∈ front, part.isIndex)

include indices

/-- Indices in front of a part lead to the value around it. -/
theorem exists_follow?_of_address_eq {n : Node} {part : Part} {rest : List Part}
    (hn : n ∈ v.nodes []) (at_n : n.address = front ++ part :: rest) :
    ∃ w, v.follow? front = some w ∧ part.isIndex = (w.kind == .array) := by
  obtain ⟨w, leads, ⟨none, -⟩ | inside⟩ := exists_follow?_of_isIndex hn at_n indices
  · cases none
  · obtain ⟨next, more, at_n', index⟩ := exists_part_of_mem_nodes inside
    rw [at_n, List.nil_append, List.append_cancel_left_eq, List.cons.injEq] at at_n'
    exact ⟨w, leads, at_n'.1 ▸ index⟩

/-- Behind indices, all nodes have indices or none of them. -/
theorem isIndex_eq_of_address_eq {m n : Node} {a b : Part} {more rest : List Part}
    (hm : m ∈ v.nodes []) (hn : n ∈ v.nodes []) (at_m : m.address = front ++ a :: more)
    (at_n : n.address = front ++ b :: rest) : a.isIndex = b.isIndex := by
  obtain ⟨w, leads_w, index_a⟩ := exists_follow?_of_address_eq indices hm at_m
  obtain ⟨u, leads_u, index_b⟩ := exists_follow?_of_address_eq indices hn at_n
  rw [leads_w, Option.some.injEq] at leads_u
  rw [index_a, index_b, leads_u]

/-- A node to which indices lead is an array if and only if the nodes behind it have indices. -/
theorem isIndex_eq_of_address {m n : Node} {part : Part} {rest : List Part} (hm : m ∈ v.nodes [])
    (hn : n ∈ v.nodes []) (at_m : m.address = front) (at_n : n.address = front ++ part :: rest) :
    part.isIndex = (m.value.kind == .array) := by
  obtain ⟨w, leads, index⟩ := exists_follow?_of_address_eq indices hn at_n
  have at_m' : m.address = [] ++ (front ++ []) := by rw [at_m, List.append_nil, List.nil_append]
  obtain ⟨u, leads_u, ⟨-, here⟩ | deeper⟩ := exists_follow?_of_isIndex hm at_m' indices
  · rw [leads, Option.some.injEq] at leads_u
    rw [index, leads_u, here]
  · obtain ⟨first, more, longer, -⟩ := exists_part_of_mem_nodes deeper
    rw [at_m, List.nil_append] at longer
    exact absurd (List.self_eq_append_right.mp longer) (List.cons_ne_nil _ _)

end

end Json

namespace Node

variable {v : Json} {n : Node}

theorem parent_some (start : String) (h : n ∈ v.nodes []) :
    n.parent (some start) = some (Path.below start (v.kind == .array) (n.parent none)) := by
  refine Path.along_some_eq_below fun part here => Json.isIndex_of_mem_head? h part ?_
  rw [address, List.head?_append, Option.mem_def.mp here]
  rfl

theorem path_some (start : String) (h : n ∈ v.nodes []) :
    n.path (some start) = Path.compose (some start) (n.path none) (v.kind == .array) := by
  have whole : Path.along (some start) n.address =
      some (Path.below start (v.kind == .array) (Path.along none n.address)) :=
    Path.along_some_eq_below (Json.isIndex_of_mem_head? h)
  rw [along_address, along_address, Option.some.injEq] at whole
  exact whole

theorem field_some (start : String) (h : n ∈ v.nodes []) :
    n.field (some start) = (n.field none).below start (v.kind == .array) := by
  rw [field, parent_some start h]
  rfl

/-- The node is reached by indices alone. -/
def isTop (n : Node) : Bool := n.address.all Part.isIndex

theorem isTop_iff : n.isTop ↔ (∀ part ∈ n.above, part.isIndex) ∧ n.last.isIndex := by
  rw [isTop, List.all_eq_true, address, List.forall_mem_append, List.forall_mem_singleton]

theorem isIndex_last_of_not_isTop (h : n.isTop = false) (indices : ∀ part ∈ n.above, part.isIndex) :
    n.last.isIndex = false := by
  rw [← Bool.not_eq_true] at h ⊢
  exact fun index => h (isTop_iff.mpr ⟨indices, index⟩)

/-- The path at which the first pass places a node of a document at a path: where only indices lead
to it, its index is taken for a key. -/
def place (start : String) (n : Node) : String :=
  Path.compose (n.parent (some start)) n.last.text (n.last.isIndex && !n.isTop)

theorem place_of_not_isTop {start : String} (h : n.isTop = false) :
    n.place start = n.path (some start) := by
  rw [place, h, Bool.not_false, Bool.and_true]
  rfl

end Node

/-! ## Placing nodes below a path -/

/-- The path goes on behind the start with a dot somewhere. -/
def IsDotted (start path : String) : Prop := ∃ rest, path.toList = start.toList ++ rest ∧ '.' ∈ rest

theorem Path.Part.not_mem_piece {part : Part} (index : part.isIndex) : '.' ∉ part.piece := by
  cases part with
  | key name => cases index
  | index i =>
      intro mem
      rcases List.mem_cons.mp mem with same | mem
      · cases same
      · rcases List.mem_append.mp mem with digit | bracket
        · have digits := isDigits_decimalDigits i
          rw [isDigits, Bool.and_eq_true, List.all_eq_true] at digits
          exact absurd (digits.2 _ digit) (by decide)
        · cases List.mem_singleton.mp bracket

/-- Where only indices lead there is no dot behind the start. -/
theorem not_isDotted_of_along {start path : String} {address : List Part}
    (h : Path.along (some start) address = some path) (top : ∀ part ∈ address, part.isIndex) :
    ¬ IsDotted start path := by
  obtain ⟨path', same, text⟩ := Path.along_some start address
  rw [h, Option.some.injEq] at same
  subst same
  rintro ⟨rest, text', dot⟩
  rw [text, List.append_cancel_left_eq] at text'
  rw [← text', List.mem_flatten] at dot
  obtain ⟨piece, mem, dot⟩ := dot
  obtain ⟨part, here, rfl⟩ := List.mem_map.mp mem
  exact Path.Part.not_mem_piece (top part here) dot

/-- A key behind the start comes with a dot. -/
theorem Path.Part.mem_piece {part : Part} (key : ¬ part.isIndex) : '.' ∈ part.piece := by
  cases part with
  | key name => exact List.mem_cons_self ..
  | index i => exact absurd rfl key

/-- A path is dotted if its last part stands behind a dot or a key leads to its parent. -/
theorem isDotted_compose {start parent text : String} {above : List Part} {flat : Bool}
    (at_parent : Path.along (some start) above = some parent)
    (h : flat = true → ¬ ∀ part ∈ above, part.isIndex) :
    IsDotted start (Path.compose (some parent) text flat) := by
  obtain ⟨path, same, front⟩ := Path.along_some start above
  rw [at_parent, Option.some.injEq] at same
  subst same
  cases flat with
  | false =>
      refine ⟨(above.map Part.piece).flatten ++ '.' :: text.toList, ?_, by simp⟩
      rw [Path.compose_object]
      simp [front]
  | true =>
      refine ⟨(above.map Part.piece).flatten ++ text.toList, ?_, ?_⟩
      · rw [Path.compose_array, String.toList_append, front, List.append_assoc]
      · have behind := h rfl
        rw [Classical.not_forall] at behind
        obtain ⟨part, behind⟩ := behind
        rw [Classical.not_imp] at behind
        exact List.mem_append_left _ (List.mem_flatten.mpr
          ⟨part.piece, List.mem_map_of_mem behind.1, Path.Part.mem_piece behind.2⟩)

/-- The first pass places every node behind a dot. -/
theorem Node.isDotted_place (start : String) (n : Node) : IsDotted start (n.place start) := by
  obtain ⟨parent, at_parent, -⟩ := Path.along_some start n.above
  rw [Node.place, Node.parent, at_parent]
  refine isDotted_compose at_parent fun flat indices => ?_
  rw [Bool.and_eq_true, Bool.not_eq_true'] at flat
  rw [isIndex_last_of_not_isTop flat.2 indices] at flat
  cases flat.1

/-- No node of the document lies where the first pass places a node that is reached by indices. -/
theorem Node.along_ne_place {v : Json} {m n : Node} (hm : m ∈ v.nodes []) (hn : n ∈ v.nodes [])
    (top : n.isTop) (start : String) {front rest : List Part}
    (address : m.address = front ++ rest) :
    Path.along (some start) front ≠ some (n.place start) := by
  intro same
  obtain ⟨path, end_at, text⟩ := Path.along_some start front
  obtain ⟨parent, at_parent, text'⟩ := Path.along_some start n.above
  rw [end_at, Option.some.injEq, Node.place, Node.parent, at_parent, top, Bool.not_true,
    Bool.and_false, Path.compose_object] at same
  obtain ⟨indices, last⟩ := isTop_iff.mp top
  rw [same, String.toList_append, String.toList_append, text', List.append_assoc,
    List.append_assoc, List.append_cancel_left_eq] at text
  obtain ⟨behind, rfl, dotted⟩ := Path.exists_eq_append indices text.symm
  cases behind with
  | nil => cases dotted
  | cons part behind =>
      cases part with
      | index i => cases dotted
      | key name =>
          have index := Json.isIndex_eq_of_address_eq indices hm hn
            (address.trans (List.append_assoc ..)) rfl
          rw [last] at index
          cases index

namespace Containers

/-- No array is known where only indices lead. -/
def Untouched (start : String) (known : Containers) : Prop :=
  ∀ front : List Part, (∀ part ∈ front, part.isIndex) →
    known.isArray (Path.along (some start) front) = false

theorem untouched_none (start : String) : none.Untouched start := by
  intro front _
  cases Path.along (some start) front with
  | none => rfl
  | some path => rfl

/-- Dotted fields leave the places where only indices lead. -/
theorem Untouched.seeAll {start : String} {known : Containers} {fields : List Field}
    (untouched : known.Untouched start) (dotted : ∀ x ∈ known.placed fields, IsDotted start x.1) :
    (known.seeAll fields).Untouched start := by
  intro front indices
  rw [← untouched front indices]
  refine isArray_seeAll fun x hx same => ?_
  exact not_isDotted_of_along same indices (dotted x hx)

/-- Inside a value to which indices lead, the first pass places nodes with an index without one. -/
theorem placed_fields_some {start : String} {known : Containers} {above : List Part} {v : Json}
    (untouched : known.Untouched start) (indices : ∀ part ∈ above, part.isIndex) :
    known.placed (v.fields (Path.along (some start) above)) =
      (v.nodes above).map fun n => (n.place start, n.field (some start)) := by
  induction v using Json.childInduction generalizing known above with
  | parent v ih =>
      cases array : v.kind == .array with
      | false =>
          -- from here on everything lies behind a key
          have fits : known.Fits (Path.along (some start) above) v :=
            fits_of_isArray ((untouched above indices).trans array.symm)
          rw [placed_fields fits]
          refine List.map_congr_left fun n hn => ?_
          obtain ⟨part, rest, address, key⟩ := Json.exists_part_of_mem_nodes hn
          have behind : n.isTop = false := by
            rw [Node.isTop, address, List.all_append, List.all_cons, key, array, Bool.false_and,
              Bool.and_false]
          rw [Node.place_of_not_isTop behind]
      | true =>
          rw [Json.fields_eq, Json.nodes_eq, List.map_flatMap]
          refine placed_flatMap (I := Untouched start) untouched fun c hc known untouched => ?_
          have index : c.1.isIndex := (Json.isIndex_of_mem_children hc).trans array
          have top : (⟨above, c.1, c.2⟩ : Node).isTop := Node.isTop_iff.mpr ⟨indices, index⟩
          have placed_at : known.pathOf
              (Field.ofValue (Path.along (some start) above) c.1.text c.2) =
                (⟨above, c.1, c.2⟩ : Node).place start := by
            rw [Node.place, top, Bool.not_true, Bool.and_false, ← untouched above indices]
            rfl
          have seen : (known.seeAll
              [Field.ofValue (Path.along (some start) above) c.1.text c.2]).Untouched start := by
            refine untouched.seeAll ?_
            rw [placed, placed_at]
            exact List.forall_mem_singleton.mpr (Node.isDotted_place start _)
          have deeper : ∀ part ∈ above ++ [c.1], part.isIndex :=
            List.forall_mem_append.mpr ⟨indices, List.forall_mem_singleton.mpr index⟩
          have inside := ih c.1 c.2 hc seen deeper
          rw [Path.along_concat, seeAll_cons, seeAll_nil] at inside
          have eq : known.placed (Field.ofValue (Path.along (some start) above) c.1.text c.2 ::
              c.2.fields (some (Path.compose (Path.along (some start) above) c.1.text
                c.1.isIndex))) = (⟨above, c.1, c.2⟩ :: c.2.nodes (above ++ [c.1])).map
                  fun n => (n.place start, n.field (some start)) := by
            rw [placed, inside, placed_at]
            rfl
          refine ⟨eq, untouched.seeAll ?_⟩
          rw [eq]
          exact List.forall_mem_map.mpr fun n _ => n.isDotted_place start

end Containers

/-- A document at a path: every field is placed at the place of its node. -/
theorem Json.placed_fields_some (start : String) (v : Json) :
    Containers.none.placed (v.fields (some start)) =
      (v.nodes []).map fun n => (n.place start, n.field (some start)) := by
  have indices : ∀ part ∈ ([] : List Part), part.isIndex := fun _ mem => nomatch mem
  exact Containers.placed_fields_some (Containers.untouched_none start) indices

end BodyCheck
