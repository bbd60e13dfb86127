import BodyCheck.Proofs.KeyedLists
import BodyCheck.Proofs.Nodes

/-!
# Following addresses

`Json.follow?` follows an address from a document down to a node, and `Json.resolve?` reads a path
and follows what it reads.

In a document the keys of an object are distinct.  So the address of a node leads to the node
(`Json.follow?_of_mem_nodes`), and no address is listed twice (`Json.nodup_addresses`).  If no key
holds a mark, paths are read back as the addresses that they end (`Json.address?_along`), so the
path of a node leads to the node too (`Json.resolve?_path`), and the nodes have distinct paths
(`Json.nodup_paths`).
-/

namespace BodyCheck

open BodyCheck.Path (Part)

namespace Json

/-! ## Following -/

/-- The child that a part leads to. -/
def at? : Part → Json → Option Json
  | .key name, .object entries => entries.lookup name
  | .index i, .array items => items[i]?
  | _, _ => none

/-- The node that an address leads to. -/
def follow? : List Part → Json → Option Json
  | [], v => some v
  | part :: rest, v => (v.at? part).bind (follow? rest)

/-- The address that a path stands for in a document. -/
def address? (path : String) (v : Json) : Option (List Part) :=
  Path.read? (v.kind == .array) path

/-- The node that a path leads to in a document. -/
def resolve? (path : String) (v : Json) : Option Json :=
  (v.address? path).bind fun address => v.follow? address

/-- What a part leads to is a child. -/
theorem mem_children_of_at? {v w : Json} {part : Part} (h : v.at? part = some w) :
    (part, w) ∈ v.children := by
  unfold at? at h
  split at h
  · next name entries =>
      exact mem_children_iff.mpr (.inr ⟨entries, name, rfl, rfl, mem_of_lookup h⟩)
  · next i items => exact mem_children_iff.mpr (.inl ⟨items, i, rfl, rfl, h⟩)
  · cases h

/-- In a document every child is found by its part. -/
theorem at?_of_mem_children {v w : Json} {part : Part} (wf : v.WellFormed)
    (h : (part, w) ∈ v.children) : v.at? part = some w := by
  rcases mem_children_iff.mp h with ⟨items, i, rfl, rfl, hw⟩ | ⟨entries, name, rfl, rfl, hw⟩
  · exact hw
  · exact lookup_of_mem wf.1 hw

theorem wellFormedItems_iff {items : List Json} :
    WellFormedItems items ↔ ∀ v ∈ items, v.WellFormed := by
  induction items with
  | nil => simp [WellFormedItems]
  | cons v items ih => rw [WellFormedItems, ih, List.forall_mem_cons]

theorem wellFormedEntries_iff {entries : List (String × Json)} :
    WellFormedEntries entries ↔ ∀ e ∈ entries, e.2.WellFormed := by
  induction entries with
  | nil => simp [WellFormedEntries]
  | cons e entries ih => rw [WellFormedEntries, ih, List.forall_mem_cons]

/-- The parts of a document are documents. -/
theorem wellFormed_of_mem_children {v w : Json} {part : Part} (wf : v.WellFormed)
    (h : (part, w) ∈ v.children) : w.WellFormed := by
  rcases mem_children_iff.mp h with ⟨items, i, rfl, rfl, hw⟩ | ⟨entries, name, rfl, rfl, hw⟩
  · exact wellFormedItems_iff.mp wf w (List.mem_of_getElem? hw)
  · exact wellFormedEntries_iff.mp wf.2 (name, w) hw

/-- The children of a document are found by distinct parts. -/
theorem nodup_parts {v : Json} (wf : v.WellFormed) : (v.children.map Prod.fst).Nodup := by
  cases v with
  | array items =>
      have parts : (children (.array items)).map Prod.fst =
          (items.zipIdx.map Prod.snd).map Part.index := by
        rw [children, List.map_map, List.map_map]
        rfl
      rw [parts, List.zipIdx_map_snd]
      exact List.Nodup.map (fun i j same => by cases same; rfl) List.nodup_range'
  | object entries =>
      have parts : (children (.object entries)).map Prod.fst =
          (entries.map Prod.fst).map Part.key := by
        rw [children, List.map_map, List.map_map]
        rfl
      rw [parts]
      exact List.Nodup.map (fun a b same => by cases same; rfl) wf.1
  | null | bool b | number n | string s => exact List.nodup_nil

/-! ## Keys -/

mutual

/-- The keys of all objects in a value. -/
def keys : Json → List String
  | .array items => itemKeys items
  | .object entries => entryKeys entries
  | _ => []

/-- The keys of all objects in elements. -/
def itemKeys : List Json → List String
  | [] => []
  | v :: rest => v.keys ++ itemKeys rest

/-- The keys of all objects in entries, and those of the entries. -/
def entryKeys : List (String × Json) → List String
  | [] => []
  | (key, v) :: rest => key :: v.keys ++ entryKeys rest

end

/-- No key of an object in the value holds a mark. -/
def HasPlainKeys (v : Json) : Prop := ∀ key ∈ v.keys, Path.IsPlain key

instance (v : Json) : Decidable v.HasPlainKeys :=
  decidable_of_iff (v.keys.all fun key => decide (Path.IsPlain key)) (by simp [HasPlainKeys])

theorem mem_itemKeys {key : String} {w : Json} (hk : key ∈ w.keys) :
    ∀ {items : List Json}, w ∈ items → key ∈ itemKeys items
  | v :: rest, h => by
      rw [itemKeys, List.mem_append]
      cases List.mem_cons.mp h with
      | inl here => exact .inl (here ▸ hk)
      | inr later => exact .inr (mem_itemKeys hk later)

theorem mem_entryKeys {name : String} {w : Json} :
    ∀ {entries : List (String × Json)}, (name, w) ∈ entries →
      name ∈ entryKeys entries ∧ ∀ key ∈ w.keys, key ∈ entryKeys entries
  | (key, v) :: rest, h => by
      rw [entryKeys]
      cases List.mem_cons.mp h with
      | inl here =>
          cases here
          exact ⟨List.mem_cons_self .., fun key hk =>
            List.mem_append_left _ (List.mem_cons_of_mem _ hk)⟩
      | inr later =>
          obtain ⟨own, inner⟩ := mem_entryKeys later
          exact ⟨List.mem_append_right _ own, fun key hk => List.mem_append_right _ (inner key hk)⟩

/-- If no key holds a mark, the parts that lead to children are plain, and so are the keys inside
the children. -/
theorem HasPlainKeys.child {v w : Json} {part : Part} (plain : v.HasPlainKeys)
    (h : (part, w) ∈ v.children) : part.IsPlain ∧ w.HasPlainKeys := by
  rcases mem_children_iff.mp h with ⟨items, i, rfl, rfl, hw⟩ | ⟨entries, name, rfl, rfl, hw⟩
  · exact ⟨trivial, fun key hk => plain key (mem_itemKeys hk (List.mem_of_getElem? hw))⟩
  · obtain ⟨own, inner⟩ := mem_entryKeys hw
    exact ⟨plain name own, fun key hk => plain key (inner key hk)⟩

/-- If no key holds a mark, neither does a part of an address in the value. -/
theorem HasPlainKeys.follow? {w : Json} {address : List Part} :
    ∀ {v : Json}, v.HasPlainKeys → v.follow? address = some w → ∀ part ∈ address, part.IsPlain := by
  induction address with
  | nil => intro v _ _ part h; cases h
  | cons first rest ih =>
      intro v plain h
      rw [Json.follow?, Option.bind_eq_some_iff] at h
      obtain ⟨u, hu, hw⟩ := h
      obtain ⟨first_plain, inner⟩ := plain.child (mem_children_of_at? hu)
      exact List.forall_mem_cons.mpr ⟨first_plain, ih inner hw⟩

/-- The path of a node stands for the address of the node and no other. -/
theorem address?_along {v w : Json} {address : List Part} {path : String}
    (plain : v.HasPlainKeys) (h : v.follow? address = some w)
    (end_at : Path.along none address = some path) : v.address? path = some address := by
  cases address with
  | nil => cases end_at
  | cons part rest =>
      have parts := plain.follow? h
      rw [follow?, Option.bind_eq_some_iff] at h
      obtain ⟨u, hu, -⟩ := h
      rw [address?, ← isIndex_of_mem_children (mem_children_of_at? hu)]
      exact Path.read?_along parts end_at

/-! ## Nodes and their addresses -/

/-- The address of a node inside a value starts with that of the value, and what remains of it
leads from the value to the node. -/
theorem exists_follow?_of_mem_nodes {v : Json} {above : List Part} {n : Node}
    (wf : v.WellFormed) (h : n ∈ v.nodes above) :
    ∃ part rest, n.address = above ++ part :: rest ∧
      v.follow? (part :: rest) = some n.value := by
  induction v using childInduction generalizing above with
  | parent v ih =>
      obtain ⟨part, w, hc, rfl | hn⟩ := mem_nodes_iff.mp h
      · exact ⟨part, [], rfl, by rw [follow?, at?_of_mem_children wf hc]; rfl⟩
      · obtain ⟨next, rest, address, leads⟩ :=
          ih part w hc (wellFormed_of_mem_children wf hc) hn
        refine ⟨part, next :: rest, ?_, ?_⟩
        · rw [address, List.append_assoc]
          rfl
        · rw [follow?, at?_of_mem_children wf hc]
          exact leads

/-- The address of a node leads to the node. -/
theorem follow?_of_mem_nodes {v : Json} {n : Node} (wf : v.WellFormed) (h : n ∈ v.nodes []) :
    v.follow? n.address = some n.value := by
  obtain ⟨part, rest, address, leads⟩ := exists_follow?_of_mem_nodes wf h
  rw [address]
  exact leads

/-- The addresses of a child and of the nodes inside it go on with the part of the child. -/
theorem exists_address_eq {w : Json} {above : List Part} {part : Part} {n : Node}
    (wf : w.WellFormed) (h : n ∈ ⟨above, part, w⟩ :: w.nodes (above ++ [part])) :
    ∃ rest, n.address = above ++ part :: rest := by
  rcases List.mem_cons.mp h with rfl | deeper
  · exact ⟨[], rfl⟩
  · obtain ⟨next, rest, address, -⟩ := exists_follow?_of_mem_nodes wf deeper
    refine ⟨next :: rest, ?_⟩
    rw [address, List.append_assoc]
    rfl

/-- No address is listed twice. -/
theorem nodup_addresses {v : Json} (wf : v.WellFormed) (above : List Part) :
    ((v.nodes above).map Node.address).Nodup := by
  induction v using childInduction generalizing above with
  | parent v ih =>
      rw [nodes_eq, List.map_flatMap, List.nodup_flatMap]
      constructor
      · intro c hc
        rw [List.map_cons, List.nodup_cons]
        refine ⟨?_, ih c.1 c.2 hc (wellFormed_of_mem_children wf hc) _⟩
        intro again
        obtain ⟨n, hn, same⟩ := List.mem_map.mp again
        obtain ⟨part, rest, address, -⟩ :=
          exists_follow?_of_mem_nodes (wellFormed_of_mem_children wf hc) hn
        rw [address] at same
        simp [Node.address] at same
      · have parts := List.pairwise_map.mp (nodup_parts wf)
        refine parts.imp_of_mem fun {c d} hc hd other => ?_
        intro address in_c in_d
        obtain ⟨m, hm, rfl⟩ := List.mem_map.mp in_c
        obtain ⟨n, hn, same⟩ := List.mem_map.mp in_d
        obtain ⟨_, address_m⟩ := exists_address_eq (wellFormed_of_mem_children wf hc) hm
        obtain ⟨_, address_n⟩ := exists_address_eq (wellFormed_of_mem_children wf hd) hn
        rw [address_m, address_n] at same
        have tails := List.append_cancel_left same
        exact other (List.cons.inj tails).1.symm

/-- In a document with plain keys, the path of a node stands for the address of the node. -/
theorem address?_path {v : Json} {n : Node} (wf : v.WellFormed) (plain : v.HasPlainKeys)
    (h : n ∈ v.nodes []) : v.address? (n.path none) = some n.address :=
  address?_along plain (follow?_of_mem_nodes wf h) (Node.along_address none n)

/-- In a document with plain keys, the path of a node leads to the node. -/
theorem resolve?_path {v : Json} {n : Node} (wf : v.WellFormed) (plain : v.HasPlainKeys)
    (h : n ∈ v.nodes []) : v.resolve? (n.path none) = some n.value := by
  rw [resolve?, address?_path wf plain h]
  exact follow?_of_mem_nodes wf h

example : (Json.object [("a", .array [.null, .object [("", .bool true)]])]).resolve? "a[1]."
    = some (.bool true) := by decide

/-- In a document with plain keys, the nodes have distinct paths. -/
theorem nodup_paths {v : Json} (wf : v.WellFormed) (plain : v.HasPlainKeys) :
    ((v.nodes []).map (Node.path none)).Nodup := by
  have addresses : ((v.nodes []).map (Node.path none)).map (fun path => v.address? path) =
      ((v.nodes []).map Node.address).map some := by
    rw [List.map_map, List.map_map]
    exact List.map_congr_left fun n hn => address?_path wf plain hn
  refine List.Nodup.of_map (fun path => v.address? path) ?_
  rw [addresses]
  exact List.Nodup.map (fun _ _ => Option.some.inj) (nodup_addresses wf [])

end Json

end BodyCheck
