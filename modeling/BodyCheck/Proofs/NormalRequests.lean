import BodyCheck.Proofs.Chains

/-!
# Requests in normal form

Some parts of a request are not written: a text that is an empty literal, the literal port zero, and
a method or an address without the other one.  The normal form of a request leaves them out
(`RequestOptions.normalised`).  Every other part stays, also one that looks empty: a reference,
whatever its name, and a pair, whatever it holds.

A request has the clauses of its normal form (`RequestOptions.clauses_normalised`), so requests with
one normal form give one test, or one error.  In a normal form no part is left that is not written
(`RequestOptions.IsNormal.length_clauses`).
-/

namespace BodyCheck

/-! ## Single parts -/

section

variable {α : Type} [DecidableEq α] {unset : α} {part : Option (Arg α)}

end

namespace RequestOptions

/-! ## Normal forms -/

end RequestOptions

/-! ## Tests -/

section

variable {name clause : String}

end

end BodyCheck
