/-!
# Keyed lists

Keyed values are put one after the other into a list of them.  Each takes the place of the one that
its key has there, and stands last if there is none.  The entries of an object are gathered in this
way, by a document as by a filter, and so are the arguments that an object of pairs holds.
-/

namespace BodyCheck

/-- The list with a new value for a key, in the place of the key if it occurs and last if not. -/
def putEntry {α : Type} (key : String) (a : α) : List (String × α) → List (String × α)
  | [] => [(key, a)]
  | (k, b) :: rest => if k = key then (k, a) :: rest else (k, b) :: putEntry key a rest

/-- The values put one after the other behind those before. -/
def putEntries {α : Type} (before l : List (String × α)) : List (String × α) :=
  l.foldl (fun done e => putEntry e.1 e.2 done) before

example : putEntries [] [("a", 1), ("b", 2), ("a", 3)] = [("a", 3), ("b", 2)] := by decide

end BodyCheck
