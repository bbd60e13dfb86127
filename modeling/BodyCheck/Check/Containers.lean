import BodyCheck.Field

/-!
# Known containers

The path of a node depends on whether its parent is an array.  A list of fields names parents by
path only, so the kinds of the containers met so far are kept in a table.  A container that is
recorded again takes the new kind.
-/

namespace BodyCheck

/-- The kinds of containers by path. -/
structure Containers where
  /-- Paths and kinds, the latest one first. -/
  entries : List (String × Kind)
deriving DecidableEq, Repr

namespace Containers

/-- No container is known. -/
def none : Containers := ⟨[]⟩

/-- The kind of the container at a path. -/
def kind? (known : Containers) (path : String) : Option Kind := known.entries.lookup path

/-- The table with one more container. -/
def record (known : Containers) (path : String) (kind : Kind) : Containers :=
  ⟨(path, kind) :: known.entries⟩

/-- There is a path, and an array is known there. -/
def isArray (known : Containers) : Option String → Bool
  | .none => false
  | some path => known.kind? path == some .array

/-- The path of a field, by what is known about its parent. -/
def pathOf (known : Containers) (f : Field) : String :=
  Path.compose f.parent f.key (known.isArray f.parent)

/-- The table after a field has been met. -/
def see (known : Containers) (f : Field) : Containers :=
  if f.isContainer then known.record (known.pathOf f) f.kind else known

/-- The table after fields have been met one after the other. -/
def seeAll (known : Containers) : List Field → Containers
  | [] => known
  | f :: rest => (known.see f).seeAll rest

theorem kind?_record (known : Containers) (path other : String) (kind : Kind) :
    (known.record path kind).kind? other =
      if other = path then some kind else known.kind? other := by
  rw [kind?, record, List.lookup_cons]
  by_cases h : other = path
  · rw [if_pos h, beq_iff_eq.mpr h]
  · rw [if_neg h, beq_false_of_ne h, kind?]

@[simp] theorem seeAll_nil (known : Containers) : known.seeAll [] = known := rfl

@[simp] theorem seeAll_cons (known : Containers) (f : Field) (rest : List Field) :
    known.seeAll (f :: rest) = (known.see f).seeAll rest := rfl

end Containers

end BodyCheck
