import BodyCheck.Proofs.Placement

/-!
# Rebuilding a document

A field names its parent by path only, and several nodes may share a path.  Still the fields of a
document tell the document, since their order tells what lies inside what.

`Json.rebuild` places the fields once more and goes through them from the last to the first, with a
stack of branches that wait for their parents.  A leaf becomes a branch.  A container takes the
branches from the top of the stack whose parent lies at its path (`adopt`).  These are its children
and no others: below them are branches of containers around it, and the paths of these are shorter
(`Json.along_ne_path`).  So the fields inside a value turn into its branches, whatever waits on the
stack (`Json.foldr_adopt`), and the branches of a document are put together at its root
(`Json.rebuild_fields`).
-/

namespace BodyCheck

open BodyCheck.Path (Part)

/-! ## Branches -/

/-- A node with all that is inside it, which waits for its parent. -/
structure Branch where
  /-- The path of its parent. -/
  parent : Option String
  /-- Its key. -/
  key : String
  /-- Its value. -/
  value : Json
deriving DecidableEq, Repr

/-- The branch waits for a container at the path. -/
def Branch.liesAt (path : String) (b : Branch) : Bool := b.parent == some path

/-- A container with branches for its children. -/
def Json.ofBranches (kind : Kind) (branches : List Branch) : Json :=
  match kind with
  | .array => .array (branches.map (·.value))
  | _ => .object (branches.map fun b => (b.key, b.value))

/-- The children of a value as branches, if it lies at a path. -/
def Json.branches (parent : Option String) (v : Json) : List Branch :=
  v.children.map fun c => ⟨parent, c.1.text, c.2⟩

/-- A field at a path joins the branches that wait.  A container takes its children from the top. -/
def adopt (x : String × Field) (waiting : List Branch) : List Branch :=
  let (path, f) := x
  if f.isContainer then
    ⟨f.parent, f.key, .ofBranches f.kind (waiting.takeWhile (·.liesAt path))⟩
      :: waiting.dropWhile (·.liesAt path)
  else ⟨f.parent, f.key, f.leafValue⟩ :: waiting

/-- The table that knows the root of a document that lies at a path, if it lies at one. -/
def Containers.ofRoot (kind : Kind) : Option String → Containers
  | .none => .none
  | some path => Containers.none.record path kind

/-- The document that lies at a path, from the kind of its root and its fields. -/
def Json.rebuild (parent : Option String) (kind : Kind) (fields : List Field) : Json :=
  .ofBranches kind (((Containers.ofRoot kind parent).placed fields).foldr adopt [])

namespace Json

/-- A container is put together from its own children. -/
theorem ofBranches_branches (parent : Option String) {v : Json} (container : v.isContainer) :
    ofBranches v.kind (v.branches parent) = v := by
  cases v with
  | array items =>
      have elements : items.zipIdx.map Prod.fst = items := List.zipIdx_map_fst 0 items
      rw [branches, children, List.map_map]
      show array ((items.zipIdx.map _).map _) = _
      rw [List.map_map]
      exact congrArg array elements
  | object entries =>
      rw [branches, children, List.map_map]
      show object ((entries.map _).map _) = _
      rw [List.map_map]
      exact congrArg object (List.map_id entries)
  | null | bool b | number n | string s => cases container

/-! ## One node -/

/-- The branches that lie at a path are taken if no others wait there. -/
theorem takeWhile_branches {path : String} {waiting : List Branch} (v : Json)
    (free : ∀ b ∈ waiting, b.parent ≠ some path) :
    (v.branches (some path) ++ waiting).takeWhile (·.liesAt path) = v.branches (some path) ∧
      (v.branches (some path) ++ waiting).dropWhile (·.liesAt path) = waiting := by
  have own : ∀ b ∈ v.branches (some path), b.liesAt path := by
    intro b hb
    obtain ⟨c, -, rfl⟩ := List.mem_map.mp hb
    exact beq_self_eq_true _
  rw [List.takeWhile_append_of_pos own, List.dropWhile_append_of_pos own]
  cases waiting with
  | nil => exact ⟨List.append_nil _, rfl⟩
  | cons b rest =>
      have other : ¬ b.liesAt path := by
        simpa [Branch.liesAt] using free b (List.mem_cons_self ..)
      rw [List.takeWhile_cons_of_neg other, List.dropWhile_cons_of_neg other, List.append_nil]
      exact ⟨rfl, rfl⟩

end Json

/-- A node takes its own children. -/
theorem Node.adopt_branches {base : Option String} {n : Node} {waiting : List Branch}
    (free : ∀ b ∈ waiting, b.parent ≠ some (n.path base)) :
    adopt (n.path base, n.field base) (n.value.branches (some (n.path base)) ++ waiting) =
      ⟨n.parent base, n.last.text, n.value⟩ :: waiting := by
  obtain ⟨taken, left⟩ := n.value.takeWhile_branches free
  cases scalar : n.value.isContainer with
  | true =>
      have container : (n.field base).isContainer := scalar
      rw [adopt, if_pos container, taken, left]
      show (⟨_, _, Json.ofBranches n.value.kind _⟩ : Branch) :: _ = _
      rw [Json.ofBranches_branches _ scalar]
      rfl
  | false =>
      have leaf : ¬ (n.field base).isContainer := by
        show ¬ n.value.isContainer
        rw [scalar]
        exact Bool.false_ne_true
      rw [adopt, if_neg leaf, n.leafValue_field base scalar, Json.branches,
        Json.children_eq_nil_of_isScalar scalar]
      rfl

/-! ## All nodes -/

/-- If each group puts one element on the stack and keeps a condition on the stack, all groups put
theirs on it, in order. -/
theorem foldr_flatMap_eq {α β γ : Type} {step : γ → List β → List β} {group : α → List γ}
    {branch : α → β} {good : List β → Prop} {waiting : List β} (start : good waiting) :
    ∀ {l : List α}, (∀ a ∈ l, ∀ stack, good stack →
        (group a).foldr step stack = branch a :: stack ∧ good (branch a :: stack)) →
      (l.flatMap group).foldr step waiting = l.map branch ++ waiting ∧
        good (l.map branch ++ waiting)
  | [], _ => ⟨rfl, start⟩
  | a :: l, each => by
      rw [List.forall_mem_cons] at each
      obtain ⟨behind, stays⟩ := foldr_flatMap_eq start each.2
      obtain ⟨here, stays_here⟩ := each.1 _ stays
      rw [List.flatMap_cons, List.foldr_append, behind, here]
      exact ⟨rfl, stays_here⟩

/-- No branch on the stack waits for one of the nodes. -/
def Unclaimed (base : Option String) (nodes : List Node) (stack : List Branch) : Prop :=
  ∀ n ∈ nodes, ∀ b ∈ stack, b.parent ≠ some (n.path base)

namespace Json

/-- One child of a value, with the nodes inside it, turns into a branch of the value.  This branch
waits for the value, which has a shorter path than every node inside it. -/
theorem foldr_adopt_child {base : Option String} {v w : Json} {above : List Part} {part : Part}
    {stack : List Branch} (hc : (part, w) ∈ v.children)
    (unclaimed : Unclaimed base (v.nodes above) stack)
    (ih : ∀ {stack : List Branch}, Unclaimed base (w.nodes (above ++ [part])) stack →
      ((w.nodes (above ++ [part])).map fun n => (n.path base, n.field base)).foldr adopt stack =
        w.branches (Path.along base (above ++ [part])) ++ stack) :
    let branch : Branch := ⟨Path.along base above, part.text, w⟩
    ((⟨above, part, w⟩ :: w.nodes (above ++ [part])).map
        fun n => (n.path base, n.field base)).foldr adopt stack = branch :: stack ∧
      Unclaimed base (v.nodes above) (branch :: stack) := by
  intro branch
  have inside : ∀ n ∈ w.nodes (above ++ [part]), n ∈ v.nodes above :=
    fun n hn => mem_nodes_iff.mpr ⟨part, w, hc, .inr hn⟩
  have child : ⟨above, part, w⟩ ∈ v.nodes above := mem_nodes_iff.mpr ⟨part, w, hc, .inl rfl⟩
  constructor
  · rw [List.map_cons, List.foldr_cons, ih fun n hn => unclaimed n (inside n hn),
      Path.along_concat]
    exact Node.adopt_branches (unclaimed _ child)
  · intro n hn b hb
    rcases List.mem_cons.mp hb with rfl | later
    · exact along_ne_path hn
    · exact unclaimed n hn b later

/-- The nodes inside a value turn into its branches, whatever waits for other nodes. -/
theorem foldr_adopt {base : Option String} {v : Json} {above : List Part} {stack : List Branch}
    (unclaimed : Unclaimed base (v.nodes above) stack) :
    ((v.nodes above).map fun n => (n.path base, n.field base)).foldr adopt stack =
      v.branches (Path.along base above) ++ stack := by
  induction v using childInduction generalizing above stack with
  | parent v ih =>
      have each := foldr_flatMap_eq unclaimed fun c hc stack unclaimed =>
        foldr_adopt_child hc unclaimed fun inner => ih c.1 c.2 hc inner
      rw [nodes_eq, List.map_flatMap]
      exact each.1

/-- The table that knows the root fits it. -/
theorem fits_ofRoot (parent : Option String) (v : Json) :
    (Containers.ofRoot v.kind parent).Fits parent v := by
  cases parent with
  | none => exact Containers.fits_none _ v
  | some path =>
      refine Containers.fits_of_isArray ?_
      rw [Containers.ofRoot, Containers.isArray, Containers.kind?_record, if_pos rfl]
      rfl

end Json

/-- The fields of a document tell the document, if the kind of its root is known and the path where
it lies.  Keys may be any, and several nodes may share a path. -/
theorem Json.rebuild_fields (parent : Option String) {v : Json} (container : v.isContainer) :
    rebuild parent v.kind (v.fields parent) = v ∧
      ∀ w : Json, w.isContainer → w.kind = v.kind → w.fields parent = v.fields parent → w = v := by
  have rebuilt : ∀ u : Json, u.isContainer → rebuild parent u.kind (u.fields parent) = u := by
    intro u container
    have fits : (Containers.ofRoot u.kind parent).Fits (Path.along parent []) u :=
      u.fits_ofRoot parent
    have placed := Containers.placed_fields fits
    rw [Path.along_nil] at placed
    rw [rebuild, placed, foldr_adopt fun _ _ _ hb => absurd hb List.not_mem_nil, List.append_nil,
      Path.along_nil, ofBranches_branches parent container]
  refine ⟨rebuilt v container, fun w container_w kind fields => ?_⟩
  rw [← rebuilt w container_w, kind, fields, rebuilt v container]

/-- Two containers at one path, one of which has no children. -/
theorem Json.rebuild_fields_shared_path :
    let v : Json := .object [("b.c", .array [.null, .object []]),
      ("b", .object [("c", .array []), ("", .bool true)])]
    v.isContainer ∧
      v.fields (some "a") =
        [⟨some "a", "b.c", .array, none⟩, ⟨some "a.b.c", "[0]", .null, some .null⟩,
          ⟨some "a.b.c", "[1]", .object, none⟩, ⟨some "a", "b", .object, none⟩,
          ⟨some "a.b", "c", .array, none⟩, ⟨some "a.b", "", .boolean, some (.bool true)⟩] ∧
      rebuild (some "a") .object (v.fields (some "a")) = v := by
  intro v
  have container : v.isContainer := rfl
  exact ⟨container, by decide, (Json.rebuild_fields (some "a") container).1⟩

end BodyCheck
