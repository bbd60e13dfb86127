import BodyCheck.Source.Literal
import Std.Data.String.ToInt

/-!
# Literals read back

A literal tells which value it was made of, as long as that is a string, a boolean, null or a whole
number.  A string is known by its quotes, whatever it contains, and a whole number by its decimal
form, with the suffix `L` exactly beyond the greatest number of 32 bits.  So these values can be
read back (`Json.ofLiteral?`), and no two of them have one literal.

Doubles are left out: a whole one beyond 64 bits is written with the digits of a whole number.
-/

namespace BodyCheck

/-! ## Whole numbers -/

theorem decimalText_eq_repr (n : Nat) : decimalText n = n.repr :=
  Nat.repr_eq_ofList_toDigits.symm

/-- A whole number is written in its decimal form. -/
theorem ofList_integerText (n : Int) : String.ofList (Json.integerText n) = n.repr := by
  have digits : String.ofList (decimalDigits n.natAbs) = n.natAbs.repr := decimalText_eq_repr _
  rw [Int.repr_eq_if, Json.integerText, String.ofList_append, digits]
  by_cases negative : n < 0
  · have magnitude : n.natAbs = (-n).toNat := by omega
    rw [if_pos negative, if_neg (by omega), magnitude]
  · have magnitude : n.natAbs = n.toNat := by omega
    rw [if_neg negative, if_pos (by omega), magnitude, String.ofList_nil, String.empty_append]

theorem integerLiteral_eq (n : Int) :
    integerLiteral n = n.repr ++ if 2147483647 < n then "L" else "" := by
  rw [integerLiteral, ofList_integerText, greatestPlainInteger]
  by_cases long : 2147483647 < n
  · rw [if_pos long, if_neg (by omega)]
  · rw [if_neg long, if_pos (by omega), String.append_empty]

/-- The decimal form of a number holds digits and a minus sign only. -/
theorem isDigit_of_mem_repr {n : Int} {ch : Char} (mem : ch ∈ n.repr.toList) :
    ch = '-' ∨ ch.isDigit = true := by
  rw [← ofList_integerText, String.toList_ofList, Json.integerText, List.mem_append] at mem
  rcases mem with sign | digit
  · split at sign
    · exact .inl (List.mem_singleton.mp sign)
    · cases sign
  · exact .inr (Nat.isDigit_of_mem_toDigits (by decide) (by decide) digit)

theorem isDigit_of_mem_integerLiteral {n : Int} {ch : Char}
    (mem : ch ∈ (integerLiteral n).toList) : ch = '-' ∨ ch.isDigit = true ∨ ch = 'L' := by
  rw [integerLiteral_eq, String.toList_append, List.mem_append] at mem
  rcases mem with digits | suffix
  · exact (isDigit_of_mem_repr digits).imp_right .inl
  · split at suffix
    · exact .inr (.inr (List.mem_singleton.mp suffix))
    · cases suffix

/-- Without the suffix the literal of a whole number is its decimal form. -/
theorem filter_integerLiteral (n : Int) :
    String.ofList ((integerLiteral n).toList.filter (· ≠ 'L')) = n.repr := by
  have plain : n.repr.toList.filter (· ≠ 'L') = n.repr.toList := by
    refine List.filter_eq_self.mpr fun ch mem => decide_eq_true fun suffix => ?_
    rcases isDigit_of_mem_repr mem with rfl | digit
    · exact absurd suffix (by decide)
    · exact absurd (suffix ▸ digit) (by decide)
  have none : (if 2147483647 < n then "L" else "").toList.filter (· ≠ 'L') = [] := by
    split <;> rfl
  rw [integerLiteral_eq, String.toList_append, List.filter_append, plain, none, List.append_nil,
    String.ofList_toList]

/-! ## Reading literals -/

namespace Json

/-- The value is a string, a boolean, null or a whole number. -/
def IsExact : Json → Prop
  | .null | .bool _ | .string _ | .number (.integer _) => True
  | .number (.double _) | .array _ | .object _ => False

/-- The exact value that a literal was made of. -/
def ofLiteral? (text : String) : Option Json :=
  if text = "null" then some .null
  else if text = "true" then some (.bool true)
  else if text = "false" then some (.bool false)
  else if text.toList.head? = some '"' then
    some (.string (String.ofList text.toList.tail.dropLast))
  else (String.ofList (text.toList.filter (· ≠ 'L'))).toInt?.map fun n => .number (.integer n)

theorem ofLiteral?_quotedAsIs (s : String) : ofLiteral? (quotedAsIs s) = some (.string s) := by
  have chars : (quotedAsIs s).toList = '"' :: (s.toList ++ ['"']) := by simp [quotedAsIs]
  have other {word : String} (h : word.toList.head? ≠ some '"') : quotedAsIs s ≠ word := by
    rintro rfl
    exact h (by rw [chars, List.head?_cons])
  rw [ofLiteral?, if_neg (other (by decide)), if_neg (other (by decide)),
    if_neg (other (by decide)), chars, List.head?_cons, if_pos rfl, List.tail_cons,
    List.dropLast_concat, String.ofList_toList]

theorem ofLiteral?_integerLiteral (n : Int) :
    ofLiteral? (integerLiteral n) = some (.number (.integer n)) := by
  have other {word : String} (ch : Char) (mem : ch ∈ word.toList)
      (h : ¬ (ch = '-' ∨ ch.isDigit = true ∨ ch = 'L')) : integerLiteral n ≠ word := by
    rintro rfl
    exact h (isDigit_of_mem_integerLiteral mem)
  have unquoted : (integerLiteral n).toList.head? ≠ some '"' := fun quote =>
    absurd (isDigit_of_mem_integerLiteral (List.mem_of_mem_head? quote)) (by decide)
  rw [ofLiteral?, if_neg (other 'n' (by decide) (by decide)),
    if_neg (other 'e' (by decide) (by decide)),
    if_neg (other 'e' (by decide) (by decide)), if_neg unquoted, filter_integerLiteral,
    Int.toInt?_repr, Option.map_some]

/-- Every exact value has a literal, and is read back from it. -/
theorem IsExact.exists_itemLiteral {v : Json} (exact : v.IsExact) :
    ∃ text, itemLiteral v.kind v = .ok text ∧ ofLiteral? text = some v := by
  cases v with
  | null => exact ⟨_, rfl, by decide⟩
  | bool b => exact ⟨_, rfl, by cases b <;> decide⟩
  | string s => exact ⟨_, rfl, ofLiteral?_quotedAsIs s⟩
  | number n =>
      cases n with
      | integer n => exact ⟨_, rfl, ofLiteral?_integerLiteral n⟩
      | double d => exact exact.elim
  | array items => exact exact.elim
  | object entries => exact exact.elim

end Json

/-- Every string, boolean, null and whole number has a literal that no other of these values has, of
whatever kind.  A whole number, in a check of its own as well as among items, is written in its
decimal form, from which it can be read back, with the suffix `L` exactly if it is greater than
every number of 32 bits. -/
theorem itemLiteral_eq_ok_iff_eq :
    (∀ v : Json, v.IsExact → ∃ text, itemLiteral v.kind v = .ok text ∧
      ∀ w : Json, w.IsExact → (itemLiteral w.kind w = .ok text ↔ w = v)) ∧
    ∀ n : Int,
      let text := n.repr ++ if 2147483647 < n then "L" else ""
      literal .number (.number (.integer n)) = .ok text ∧
      itemLiteral .number (.number (.integer n)) = .ok text ∧
      n.repr.toInt? = some n := by
  constructor
  · intro v exact
    obtain ⟨text, known, back⟩ := exact.exists_itemLiteral
    refine ⟨text, known, fun w exact' => ⟨fun same => ?_, fun same => same ▸ known⟩⟩
    obtain ⟨text', known', back'⟩ := exact'.exists_itemLiteral
    rw [same] at known'
    cases known'
    rw [back] at back'
    exact (Option.some.inj back').symm
  · intro n
    refine ⟨?_, ?_, Int.toInt?_repr n⟩
    · rw [literal, numberLiteral, integerLiteral_eq]
    · rw [itemLiteral, literal, numberLiteral, integerLiteral_eq]
      exact nofun

/-- A string that looks like a number keeps its quotes. -/
theorem itemLiteral_digits_in_quotes :
    (Json.number (.integer 2147483648)).IsExact ∧ (Json.string "2147483648L").IsExact ∧
      itemLiteral .number (.number (.integer 2147483648)) = .ok "2147483648L" ∧
      itemLiteral .string (.string "2147483648L") ≠ .ok "2147483648L" := by
  obtain ⟨text, known, only⟩ := itemLiteral_eq_ok_iff_eq.1 (.number (.integer 2147483648)) trivial
  have digits : itemLiteral .number (.number (.integer 2147483648)) = .ok "2147483648L" :=
    congrArg Except.ok (show integerLiteral 2147483648 = "2147483648L" by decide)
  obtain rfl : text = "2147483648L" := Except.ok.inj (known.symm.trans digits)
  refine ⟨trivial, trivial, digits, fun same => ?_⟩
  cases (only (.string "2147483648L") trivial).mp same

end BodyCheck
