import BodyCheck.Config.Reader
import BodyCheck.Proofs.Identity

/-!
# Reading records that were written

A record is written as an object with one member for each field, in any order and without some of
the fields that have their default (`Config.Style.object`).  While it is read, the record holds the
fields that have been seen and the defaults of all others.  That is the invariant of the loop over
members, and at its end the record is the one that was written (`Config.reads_readRecord`).
-/

namespace BodyCheck

namespace Config

/-! ## Outcomes -/

section

variable {α β : Type}

@[simp] theorem json_ok (a : α) : json (.ok a) = .ok a := rfl

@[simp] theorem under_ok (step : Step) (a : α) : under step (.ok a) = .ok a := rfl

/-- Where a fault is found to lie does not change what is taken off the text. -/
theorem taken_settle (close : Cursor → Cursor) (x : Except Fault (α × Cursor)) :
    taken (settle close x) = taken x := by
  cases x with
  | error f =>
      rw [settle]
      split <;> rfl
  | ok y => rfl

/-- The value of a field is put into the record. -/
theorem reads_field {σ : Type} {name : String} {read : Nat → Reader α} {set : σ → α → σ}
    {depth : Nat} {record : σ} {text : List Char} {a : α} (h : Reads (read depth) text (some a)) :
    Reads ((field name read set).read depth record) text (some (set record a)) := by
  intro rest offset ends
  have put : taken ((field name read set).read depth record ⟨text ++ rest, offset⟩) =
      (taken (read depth ⟨text ++ rest, offset⟩)).map fun y => (set record y.1, y.2) :=
    taken_eq_map (set record) rfl
  rw [put, h rest offset ends]
  rfl

end

/-! ## Writing records -/

/-- A field of a record as it may be written. -/
structure Member where
  /-- The name of the field. -/
  name : String
  /-- The name it is given, its own or another one. -/
  key : String
  value : Json
  /-- The field has its default, and may be left out. -/
  mayMiss : Bool

/-- What a writer of configurations is free to choose. -/
structure Style where
  /-- How the characters of strings are written. -/
  escape : Char → List Char
  isEscape : IsEscape escape
  /-- The section of this name is given its longer name. -/
  longName : String → Bool
  /-- The field of this name is left out if it has its default. -/
  leavesOut : String → Bool
  /-- The pairs of this name are written as an object if that is possible. -/
  pairsAsObject : String → Bool
  /-- The order of the members of a record. -/
  arrange : List Member → List Member
  arrange_perm : ∀ members, (arrange members).Perm members

namespace Style

/-- The members of a record that are written. -/
def written (style : Style) (members : List Member) : List Member :=
  style.arrange (members.filter fun m => !(m.mayMiss && style.leavesOut m.name))

/-- A record. -/
def object (style : Style) (members : List Member) : Json :=
  .object ((style.written members).map fun m => (m.key, m.value))

variable {style : Style} {members : List Member}

theorem mem_of_mem_written {m : Member} (h : m ∈ style.written members) : m ∈ members :=
  List.mem_of_mem_filter ((style.arrange_perm _).mem_iff.mp h)

/-- Only what may be left out is. -/
theorem mem_written_or_mayMiss {m : Member} (h : m ∈ members) :
    m ∈ style.written members ∨ m.mayMiss = true := by
  by_cases missing : m.mayMiss = true
  · exact .inr missing
  · refine .inl ((style.arrange_perm _).mem_iff.mpr (List.mem_filter.mpr ⟨h, ?_⟩))
    simp [missing]

/-- No field is written twice. -/
theorem nodup_names_written (h : (members.map Member.name).Nodup) :
    ((style.written members).map Member.name).Nodup :=
  ((style.arrange_perm _).map _).nodup_iff.mpr (h.sublist (List.filter_sublist.map _))

end Style

/-! ## Reading records -/

section

variable {σ : Type} {entries : List (Entry σ)} {restrict : List String → σ} {depth : Nat}

/-- The text is read as the value of the field into a record that holds the fields seen so far. -/
def ReadsMember (entries : List (Entry σ)) (restrict : List String → σ) (depth : Nat)
    (escape : Char → List Char) (m : Member) : Prop :=
  ∃ e, entries.find? (·.goesBy m.key) = some e ∧ e.name = m.name ∧
    ∀ seen, Reads (e.read depth (restrict seen)) (m.value.renderWith escape)
      (some (restrict (m.name :: seen)))

/-- The text of a member. -/
def Member.text (escape : Char → List Char) (m : Member) : List Char :=
  Json.entryText escape (Json.renderWith escape) (m.key, m.value)

variable {style : Style}

/-- A member whose field has not been seen is read into the record. -/
theorem exists_member_eq {m : Member} (h : ReadsMember entries restrict depth style.escape m)
    {seen : List String} (fresh : m.name ∉ seen) {rest : List Char} (ends : EndsValue rest)
    (offset : Nat) : ∃ offset', member entries depth seen (restrict seen) m.key
        ⟨':' :: m.value.renderWith style.escape ++ rest, offset⟩ =
      .ok (m.name :: seen, restrict (m.name :: seen), ⟨rest, offset'⟩) := by
  obtain ⟨e, found, named, reads⟩ := h
  obtain ⟨offset', outcome⟩ := (reads seen).exists_ok ends (offset + 1)
  refine ⟨offset', ?_⟩
  have new : seen.contains m.name = false := by simpa using fresh
  rw [member, found]
  simp only [named, new, Bool.false_eq_true, if_false, List.cons_append, Json.colon_cons, json_ok,
    ok_bind, outcome, under_ok]
  rfl

/-- After the members the record holds all their fields. -/
theorem taken_members {m : Member} {ms : List Member}
    (h : ∀ n ∈ m :: ms, ReadsMember entries restrict depth style.escape n)
    (distinct : ((m :: ms).map Member.name).Nodup) {seen : List String}
    (fresh : ∀ n ∈ m :: ms, n.name ∉ seen) (rest : List Char) {bound : Nat}
    (long : ms.length < bound) (offset : Nat) :
    taken (members entries depth bound seen (restrict seen)
        ⟨listed '\x7d' ((m :: ms).map (Member.text style.escape)) ++ rest, offset⟩) =
      some (restrict (((m :: ms).map Member.name).reverse ++ seen), rest) := by
  induction bound generalizing m ms seen offset with
  | zero => exact absurd long (Nat.not_lt_zero _)
  | succ n ih =>
      have ends := endsValue_followed (.inr rfl) (ms.map (Member.text style.escape)) rest
      rw [List.map_cons, listed, List.append_assoc, Member.text, Json.entryText, List.append_assoc,
        members]
      obtain ⟨offset₁, named⟩ := Json.exists_key_eq style.isEscape m.key
        (':' :: m.value.renderWith style.escape ++
          (followed '\x7d' (ms.map (Member.text style.escape)) ++ rest)) offset
      obtain ⟨offset₂, read⟩ := exists_member_eq (h m (List.mem_cons_self ..))
        (fresh m (List.mem_cons_self ..)) ends offset₁
      rw [named]
      simp only [json_ok, ok_bind, read]
      rw [List.map_cons, List.nodup_cons] at distinct
      cases ms with
      | nil => rfl
      | cons m' ms =>
          have later : ∀ n ∈ m' :: ms, n.name ∉ m.name :: seen := by
            intro n mem
            rw [List.mem_cons, not_or]
            refine ⟨fun same => distinct.1 ?_, fresh n (List.mem_cons_of_mem _ mem)⟩
            rw [← same]
            exact List.mem_map_of_mem mem
          have behind := ih (fun n mem => h n (List.mem_cons_of_mem _ mem)) distinct.2 later
            (Nat.lt_of_succ_lt_succ long) (offset₂ + 1)
          have all : ((m :: m' :: ms).map Member.name).reverse ++ seen =
              ((m' :: ms).map Member.name).reverse ++ (m.name :: seen) := by
            rw [List.map_cons, List.reverse_cons, List.append_assoc, List.singleton_append]
          rw [all]
          exact behind

/-- Every record that holds all fields without their default is the one that was written. -/
theorem reads_readRecord (restrict : List String → σ) {name : String} {o : σ} {ms : List Member}
    (distinct : (ms.map Member.name).Nodup)
    (h : ∀ m ∈ ms, ReadsMember entries restrict depth style.escape m)
    (complete : ∀ names, (∀ m ∈ ms, m.name ∈ names ∨ m.mayMiss = true) → restrict names = o) :
    Reads (readRecord name entries (restrict []) (depth + 1))
      ((style.object ms).renderWith style.escape) (some o) := by
  intro rest offset _
  have texts : Json.entryTexts style.escape ((style.written ms).map fun m => (m.key, m.value)) =
      (style.written ms).map (Member.text style.escape) := by
    rw [Json.entryTexts_eq, List.map_map]
    rfl
  have whole : restrict ((style.written ms).map Member.name).reverse = o := by
    refine complete _ fun m mem => ?_
    rcases style.mem_written_or_mayMiss mem with mem | missing
    · exact .inl (List.mem_reverse.mpr (List.mem_map_of_mem mem))
    · exact .inr missing
  have each : ∀ m ∈ style.written ms, ReadsMember entries restrict depth style.escape m :=
    fun m mem => h m (Style.mem_of_mem_written mem)
  have names := style.nodup_names_written distinct
  show taken (settle afterObject (fromObject entries depth (restrict [])
    ⟨listed '\x7d' (Json.entryTexts style.escape
      ((style.written ms).map fun m => (m.key, m.value))) ++ rest, offset + 1⟩)) = _
  rw [taken_settle, texts]
  cases written : style.written ms with
  | nil =>
      rw [written] at whole
      rw [← whole]
      rfl
  | cons m more =>
      rw [written] at each names whole
      have long := length_lt_length_listed '\x7d' (m.text style.escape)
        (more.map (Member.text style.escape)) rest
      rw [List.length_map] at long
      have all := taken_members each names (fun _ _ => List.not_mem_nil) rest long (offset + 1)
      rw [List.append_nil, whole] at all
      exact all

end

end Config

end BodyCheck
