import BodyCheck.Command.Written

/-!
# Pairs written and read back

A pair is written as its two arguments with an equals sign between them, and read off a text at the
first equals sign there.  Writing is the inverse of reading: what is read off a text is written as
that text again.

Two arguments can be written alike.  A literal that is a dollar sign and more looks like a
reference, and a reference without a name looks like the literal dollar sign.  Reading settles for
the other one each time, so it gives exactly the arguments that are `Arg.IsReadable`
(`Arg.ofText_eq_iff`).  Likewise a key that is written with an equals sign would be cut there, so
exactly the pairs without one in the key are read (`Pair.ofText?_eq_some_iff`).
-/

namespace BodyCheck

/-! ## Arguments -/

/-- The argument is read back from what it is written as. -/
inductive Arg.IsReadable : Arg String → Prop where
  /-- A literal is anything but a dollar sign and more. -/
  | literal {text : String} :
      (∀ c rest, text.toList ≠ '$' :: c :: rest) → IsReadable (.literal text)
  | reference {name : String} : name ≠ "" → IsReadable (.reference name)

namespace Arg

theorem ofChars_eq_literal {text : List Char} (plain : ∀ c rest, text ≠ '$' :: c :: rest) :
    ofChars text = .literal (String.ofList text) := by
  unfold ofChars
  split
  · next c rest => exact absurd rfl (plain c rest)
  · rfl

theorem isReadable_ofChars (text : List Char) : (ofChars text).IsReadable := by
  unfold ofChars
  split
  · next c name =>
      refine .reference fun empty => ?_
      have chars := congrArg String.toList empty
      rw [String.toList_ofList] at chars
      cases chars
  · next plain =>
      refine .literal fun c rest same => ?_
      rw [String.toList_ofList] at same
      exact plain c rest same

/-- What is read is written as it was. -/
theorem written_ofChars (text : List Char) : (ofChars text).written = String.ofList text := by
  unfold ofChars
  split
  · simp [written]
  · rfl

theorem ofText_written {a : Arg String} (readable : a.IsReadable) : ofText a.written = a := by
  cases readable with
  | literal plain => rw [written, ofText, ofChars_eq_literal plain, String.ofList_toList]
  | @reference name named =>
      have chars : (reference name).written.toList = '$' :: name.toList := by
        simp [written]
      rw [ofText, chars]
      cases split : name.toList with
      | nil => exact absurd (String.toList_eq_nil_iff.mp split) named
      | cons c rest => rw [ofChars, ← split, String.ofList_toList]

/-- A text stands for the readable argument that is written like it. -/
theorem ofText_eq_iff {text : String} {a : Arg String} :
    ofText text = a ↔ a.IsReadable ∧ a.written = text := by
  constructor
  · rintro rfl
    refine ⟨isReadable_ofChars _, ?_⟩
    rw [ofText, written_ofChars, String.ofList_toList]
  · rintro ⟨readable, rfl⟩
    exact ofText_written readable

theorem ofChars_eq_iff {text : List Char} {a : Arg String} :
    ofChars text = a ↔ a.IsReadable ∧ a.written.toList = text := by
  have whole := @ofText_eq_iff (String.ofList text) a
  rwa [ofText, String.toList_ofList, ← String.toList_inj, String.toList_ofList] at whole

end Arg

/-! ## The first equals sign -/

@[simp] theorem splitEquals_equals (rest : List Char) :
    splitEquals ('=' :: rest) = some ([], rest) :=
  rfl

theorem splitEquals_cons {c : Char} (other : c ≠ '=') (rest : List Char) :
    splitEquals (c :: rest) = (splitEquals rest).map fun (key, value) => (c :: key, value) := by
  rw [splitEquals]
  exact other

theorem splitEquals_eq_none_iff {text : List Char} : splitEquals text = none ↔ '=' ∉ text := by
  induction text with
  | nil => simp [splitEquals]
  | cons c rest ih =>
      by_cases equals : c = '='
      · simp [equals]
      · rw [splitEquals_cons equals, Option.map_eq_none_iff, ih, List.mem_cons, not_or]
        exact (and_iff_right (Ne.symm equals)).symm

/-- The key is what stands in front of the first equals sign. -/
theorem splitEquals_eq_some_iff {text key value : List Char} :
    splitEquals text = some (key, value) ↔ '=' ∉ key ∧ key ++ '=' :: value = text := by
  induction text generalizing key with
  | nil => simp [splitEquals]
  | cons c rest ih =>
      by_cases equals : c = '='
      · subst equals
        cases key with
        | nil => simp [eq_comm]
        | cons k key => simp +contextual [eq_comm]
      · rw [splitEquals_cons equals]
        cases key with
        | nil => simp [Ne.symm equals]
        | cons k key =>
            have tail := @ih key
            simp only [Option.map_eq_some_iff, Prod.exists, Prod.mk.injEq, List.cons.injEq,
              List.cons_append, List.mem_cons, not_or]
            constructor
            · rintro ⟨_, _, known, ⟨rfl, rfl⟩, rfl⟩
              obtain ⟨free, same⟩ := tail.mp known
              exact ⟨⟨Ne.symm equals, free⟩, rfl, same⟩
            · rintro ⟨⟨-, free⟩, rfl, same⟩
              exact ⟨key, value, tail.mpr ⟨free, same⟩, ⟨rfl, rfl⟩, rfl⟩

/-! ## Pairs -/

namespace Pair

theorem toList_written (p : Pair) :
    p.written.toList = p.1.written.toList ++ '=' :: p.2.written.toList := by
  simp [written]

/-- There is a pair exactly if there is an equals sign. -/
theorem exists_ofText?_iff {text : String} : (∃ p, ofText? text = some p) ↔ '=' ∈ text.toList := by
  rw [ofText?, ← Option.isSome_iff_exists, Option.isSome_map, Option.isSome_iff_ne_none,
    Ne, splitEquals_eq_none_iff, Classical.not_not]

/-- A text stands for the pair that is written like it and has readable arguments, the first one
without an equals sign. -/
theorem ofText?_eq_some_iff {text : String} {p : Pair} :
    ofText? text = some p ↔
      (p.1.IsReadable ∧ p.2.IsReadable ∧ '=' ∉ p.1.written.toList) ∧ p.written = text := by
  obtain ⟨k, v⟩ := p
  simp only [ofText?, Option.map_eq_some_iff, Prod.exists, splitEquals_eq_some_iff,
    Prod.mk.injEq, Arg.ofChars_eq_iff, ← String.toList_inj, toList_written]
  constructor
  · rintro ⟨_, _, ⟨free, same⟩, ⟨key, rfl⟩, value, rfl⟩
    exact ⟨⟨key, value, free⟩, same⟩
  · rintro ⟨⟨key, value, free⟩, same⟩
    exact ⟨_, _, ⟨free, same⟩, ⟨key, rfl⟩, value, rfl⟩

/-- A text stands for a pair exactly if it holds an equals sign.  The pair is then written as the
text again, with no equals sign in its key.  All pairs without one in their key and with readable
arguments, and no others, are read off what they are written as, and off no other text; so a
reference without a name is never read. -/
theorem ofText?_written (text : String) :
    ((∃ p, ofText? text = some p) ↔ '=' ∈ text.toList) ∧
    (∀ p, ofText? text = some p ↔
      (p.1.IsReadable ∧ p.2.IsReadable ∧ '=' ∉ p.1.written.toList) ∧ p.written = text) ∧
    (∀ p, ofText? text = some p → ∀ other, ofText? other = some p ↔ other = text) ∧
    ∀ a, ofText? text ≠ some (.reference "", a) ∧ ofText? text ≠ some (a, .reference "") := by
  refine ⟨exists_ofText?_iff, fun p => ofText?_eq_some_iff, fun p read other => ?_, fun a => ?_⟩
  · constructor
    · intro again
      rw [← (ofText?_eq_some_iff.mp again).2, (ofText?_eq_some_iff.mp read).2]
    · rintro rfl
      exact read
  · have unnamed : ¬ (Arg.reference "").IsReadable := by
      rintro ⟨⟩
      contradiction
    exact ⟨fun read => unnamed (ofText?_eq_some_iff.mp read).1.1,
      fun read => unnamed (ofText?_eq_some_iff.mp read).1.2.1⟩

/-- A dollar sign alone is a key, and a name may hold equals signs. -/
theorem ofText?_lone_dollar :
    ofText? "$=$é=" = some (.literal "$", .reference "é=") ∧
      ∀ other, ofText? other = some (.literal "$", .reference "é=") ↔ other = "$=$é=" := by
  have read : ofText? "$=$é=" = some (.literal "$", .reference "é=") := by decide
  exact ⟨read, (ofText?_written "$=$é=").2.2.1 _ read⟩

end Pair

end BodyCheck
