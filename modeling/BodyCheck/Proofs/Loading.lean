import BodyCheck.Command.Documents
import BodyCheck.Proofs.Traversal

/-!
# Loading in parts

The documents of two lists of inputs are those of the first list and behind them those of the
second one, as long as only one of the lists holds the standard input (`Selection.load_append`).
Files can be read any number of times.  The standard input cannot: whoever reads it first takes all
of it, and who comes later finds an empty text, which is no document.

What loading does with a single input or a single source is decided by that one alone
(`sourcesOf_eq_error_iff`) and by what is left on the standard input (`readSources_eq_mapM`).
-/

namespace BodyCheck

/-! ## Sources -/

/-- Inputs are resolved one after the other, each for itself. -/
theorem resolveSources_eq_mapM (files : FileTree) (inputs : List String) :
    resolveSources files inputs = (inputs.mapM (sourcesOf files)).map List.flatten := by
  induction inputs with
  | nil => rfl
  | cons x inputs ih =>
      rw [resolveSources, ih, List.mapM_cons]
      cases sourcesOf files x with
      | error e => rfl
      | ok sources => cases inputs.mapM (sourcesOf files) <;> rfl

theorem resolveSources_append {files : FileTree} {xs ys : List String} {sxs sys : List Source}
    (hxs : resolveSources files xs = .ok sxs) (hys : resolveSources files ys = .ok sys) :
    resolveSources files (xs ++ ys) = .ok (sxs ++ sys) := by
  rw [resolveSources_eq_mapM] at *
  obtain ⟨as, has, rfl⟩ := exists_of_map_eq_ok hxs
  obtain ⟨bs, hbs, rfl⟩ := exists_of_map_eq_ok hys
  rw [mapM_append_eq_ok has hbs, ← List.flatten_append]
  rfl

/-- Only a hyphen stands for the standard input. -/
theorem standardInput_mem_sourcesOf_iff {files : FileTree} {x : String} {sources : List Source}
    (h : sourcesOf files x = .ok sources) : Source.standardInput ∈ sources ↔ x = "-" := by
  rw [sourcesOf] at h
  split at h
  · next hyphen =>
      cases h
      simp [hyphen]
  · next other =>
      split at h
      · cases h
        simp [other]
      · obtain ⟨paths, -, rfl⟩ := exists_of_map_eq_ok h
        simp [other]

/-- The standard input is read exactly if an input is a hyphen. -/
theorem standardInput_mem_iff {files : FileTree} {inputs : List String} {sources : List Source}
    (h : resolveSources files inputs = .ok sources) :
    Source.standardInput ∈ sources ↔ "-" ∈ inputs := by
  induction inputs generalizing sources with
  | nil =>
      cases h
      simp
  | cons x inputs ih =>
      obtain ⟨front, first, h⟩ := exists_of_bind_eq_ok h
      obtain ⟨back, rest, h⟩ := exists_of_bind_eq_ok h
      cases h
      rw [List.mem_append, standardInput_mem_sourcesOf_iff first, ih rest, List.mem_cons, eq_comm]

/-- Why a pattern stands for no sources: it is no pattern, it leads into a directory that does not
give its names out, or nothing matches it. -/
inductive FileTree.Unresolved (files : FileTree) (pattern : String) : RunError → Prop where
  | invalid {e : PatternError} : files.expand pattern = .error e →
      Unresolved files pattern (.invalidPattern pattern e)
  | unlisted {front back : List (Except ListingError String)} {e : ListingError} :
      files.expand pattern = .ok (front ++ .error e :: back) →
      (∀ entry ∈ front, ∃ path, entry = .ok path) →
      Unresolved files pattern (.unlistedDirectory e)
  | unmatched : files.expand pattern = .ok [] → Unresolved files pattern (.noMatch pattern)

/-- A pattern stands for no paths exactly for one of these reasons. -/
theorem pathsOf_eq_error_iff {files : FileTree} {pattern : String} {e : RunError} :
    pathsOf files pattern = .error e ↔ files.Unresolved pattern e := by
  constructor
  · intro h
    cases expanded : files.expand pattern with
    | error reason =>
        rw [pathsOf, expanded] at h
        cases h
        exact .invalid expanded
    | ok found =>
        rw [pathsOf, expanded] at h
        cases listed : found.mapM (·.mapError RunError.unlistedDirectory) with
        | error e' =>
            obtain ⟨front, reason, back, rfl, before, rfl⟩ := mapM_mapError_eq_error_iff.mp listed
            simp only [mapError_ok, ok_bind, listed] at h
            cases h
            exact .unlisted expanded before
        | ok paths =>
            simp only [mapError_ok, ok_bind, listed] at h
            cases paths with
            | nil =>
                have none : found.length = 0 := (forall₂_of_mapM_eq_ok listed).length_eq
                rw [List.length_eq_zero_iff.mp none] at expanded
                cases h
                exact .unmatched expanded
            | cons path paths => cases h
  · rintro (expanded | @⟨front, back, reason, expanded, before⟩ | expanded)
    · rw [pathsOf, expanded]
      rfl
    · rw [pathsOf, expanded]
      have listed : (front ++ .error reason :: back).mapM (·.mapError RunError.unlistedDirectory) =
          .error (.unlistedDirectory reason) :=
        mapM_mapError_eq_error_iff.mpr ⟨front, reason, back, rfl, before, rfl⟩
      simp only [mapError_ok, ok_bind, listed, error_bind]
    · rw [pathsOf, expanded]
      rfl

/-- Only patterns can stand for nothing. -/
theorem sourcesOf_eq_error_iff {files : FileTree} {x : String} {e : RunError} :
    sourcesOf files x = .error e ↔
      x ≠ "-" ∧ x.toList.any isPatternChar ∧ files.Unresolved x e := by
  rw [← pathsOf_eq_error_iff, sourcesOf]
  by_cases hyphen : x = "-"
  · simp [hyphen]
  · cases wild : x.toList.any isPatternChar with
    | false => simp [hyphen]
    | true => cases pathsOf files x <;> simp [hyphen, Except.map]

/-- The inputs in front stand for the sources in front. -/
theorem exists_resolveSources_of_prefix {files : FileTree} {front inputs : List String}
    {sources : List Source} (h : front <+: inputs)
    (resolved : resolveSources files inputs = .ok sources) :
    ∃ first, resolveSources files front = .ok first ∧ first <+: sources := by
  obtain ⟨back, rfl⟩ := h
  rw [resolveSources_eq_mapM] at resolved
  obtain ⟨groups, all, rfl⟩ := exists_of_map_eq_ok resolved
  obtain ⟨bs, cs, hbs, -, rfl⟩ := exists_mapM_of_append all
  exact ⟨bs.flatten, by rw [resolveSources_eq_mapM, hbs]; rfl, by simp⟩

/-! ## Texts -/

/-- What is left on the standard input behind a source. -/
def Content.behind (input : Content) : Source → Content
  | .standardInput => .text ""
  | .file _ => input

/-- Sources with what is on the standard input when it is their turn. -/
def offered (input : Content) : List Source → List (Source × Content)
  | [] => []
  | source :: rest => (source, input) :: offered (input.behind source) rest

/-- The text of a source whose turn it is. -/
def textAt (files : FileTree) (turn : Source × Content) : Except RunError (Labelled String) :=
  (readSource files turn.2 turn.1).map (·.1)

/-- Every source is read for itself, with what the sources before it left on the standard input. -/
theorem readSources_eq_mapM (files : FileTree) (input : Content) (sources : List Source) :
    readSources files input sources = (offered input sources).mapM (textAt files) := by
  induction sources generalizing input with
  | nil => rfl
  | cons source sources ih =>
      rw [readSources, offered, List.mapM_cons, ← ih]
      cases source with
      | standardInput => cases input <;> rfl
      | file path =>
          rw [readSource, textAt, readSource]
          cases files.read path <;> rfl

theorem offered_append (input : Content) (xs ys : List Source) :
    offered input (xs ++ ys) = offered input xs ++ offered (xs.foldl Content.behind input) ys := by
  induction xs generalizing input with
  | nil => rfl
  | cons x xs ih => rw [List.cons_append, offered, offered, ih, List.foldl_cons, List.cons_append]

theorem foldl_behind_of_not_mem {input : Content} {sources : List Source}
    (h : Source.standardInput ∉ sources) : sources.foldl Content.behind input = input := by
  induction sources with
  | nil => rfl
  | cons source sources ih =>
      rw [List.mem_cons, not_or] at h
      cases source with
      | standardInput => exact absurd rfl h.1
      | file path => exact ih h.2

/-- Sources with the standard input among them leave nothing there. -/
theorem foldl_behind_of_mem {input : Content} {sources : List Source}
    (h : Source.standardInput ∈ sources) : sources.foldl Content.behind input = .text "" := by
  induction sources generalizing input with
  | nil => cases h
  | cons source sources ih =>
      by_cases later : Source.standardInput ∈ sources
      · exact ih later
      · cases source with
        | standardInput => exact foldl_behind_of_not_mem later
        | file path => exact absurd (by simpa using h) later

/-- Without the standard input among the sources it does not matter what is on it. -/
theorem readSources_of_not_mem {files : FileTree} {input other : Content} {sources : List Source}
    (h : Source.standardInput ∉ sources) :
    readSources files input sources = readSources files other sources := by
  induction sources with
  | nil => rfl
  | cons source sources ih =>
      rw [List.mem_cons, not_or] at h
      cases source with
      | standardInput => exact absurd rfl h.1
      | file path =>
          rw [readSources, readSources, readSource, readSource]
          cases files.read path with
          | error e => rfl
          | ok s => simp only [bind, Except.bind, ih h.2]

/-- Later sources are read with what the earlier ones left. -/
theorem readSources_append {files : FileTree} {input : Content} {xs ys : List Source}
    {txs tys : List (Labelled String)} (hxs : readSources files input xs = .ok txs)
    (hys : readSources files (xs.foldl Content.behind input) ys = .ok tys) :
    readSources files input (xs ++ ys) = .ok (txs ++ tys) := by
  rw [readSources_eq_mapM] at *
  rw [offered_append]
  exact mapM_append_eq_ok hxs hys

/-- What reading gives for every document, if the inputs stand for the sources. -/
def InputFlags.readings (flags : InputFlags) (files : FileTree) (input : Content)
    (sources : List Source) : List (Except RunError (Labelled String)) :=
  (flags.inlineText.map fun text => .ok ⟨"<inline>", text⟩).toList ++
    (offered input sources).map (textAt files)

/-- The texts are what reading gives for every document, up to the first failure. -/
theorem InputFlags.texts_eq_mapM {flags : InputFlags} {files : FileTree} {input : Content}
    {sources : List Source} (resolved : resolveSources files flags.sources = .ok sources) :
    flags.texts files input = (flags.readings files input sources).mapM id := by
  have read : ((offered input sources).map (textAt files)).mapM id =
      readSources files input sources := by
    rw [readSources_eq_mapM, List.mapM_map]
    rfl
  rw [texts, resolved, ok_bind, readings, List.mapM_append, read]
  cases flags.inlineText <;> cases readSources files input sources <;> rfl

/-- What is read for a document does not depend on the sources behind it. -/
theorem InputFlags.readings_prefix (flags : InputFlags) (files : FileTree) (input : Content)
    {first sources : List Source} (h : first <+: sources) :
    flags.readings files input first <+: flags.readings files input sources := by
  obtain ⟨back, rfl⟩ := h
  rw [readings, readings, offered_append, List.map_append]
  exact (List.prefix_append_right_inj _).mpr (List.prefix_append _ _)

theorem readSources_cons {files : FileTree} {input left : Content} {source : Source}
    {text : Labelled String} (h : readSource files input source = .ok (text, left))
    (sources : List Source) :
    readSources files input (source :: sources) =
      (readSources files left sources).map (text :: ·) := by
  rw [readSources, h]
  show (readSources files left sources >>= _) = _
  cases readSources files left sources <;> rfl

/-- With nothing left on the standard input the same texts are read, but for the first one that
comes from there. -/
theorem exists_texts_of_mem {files : FileTree} {input : Content} {sources : List Source}
    {texts : List (Labelled String)} (mem : Source.standardInput ∈ sources)
    (h : readSources files input sources = .ok texts) :
    ∃ front t back, texts = front ++ ⟨"<stdin>", t⟩ :: back ∧
      readSources files (.text "") sources = .ok (front ++ ⟨"<stdin>", ""⟩ :: back) := by
  induction sources generalizing texts with
  | nil => cases mem
  | cons source sources ih =>
      obtain ⟨⟨text, left⟩, first, h⟩ := exists_of_bind_eq_ok h
      obtain ⟨more, rest, h⟩ := exists_of_bind_eq_ok h
      cases h
      cases source with
      | standardInput =>
          obtain ⟨t, -, first⟩ := exists_of_bind_eq_ok first
          cases first
          refine ⟨[], t, more, rfl, ?_⟩
          rw [readSources_cons rfl, rest]
          rfl
      | file path =>
          rw [readSource] at first
          split at first
          · next s content =>
              cases first
              have later : Source.standardInput ∈ sources := by simpa using mem
              obtain ⟨front, t, back, rfl, emptied⟩ := ih later rest
              refine ⟨⟨path, s⟩ :: front, t, back, rfl, ?_⟩
              rw [readSources_cons (by rw [readSource, content]), emptied]
              rfl
          · cases first

/-! ## Documents -/

theorem Selection.readAll_eq_mapM (s : Selection) (around : Filter.Surroundings)
    (texts : List (Labelled String)) : s.readAll around texts = texts.mapM (s.read around) := by
  induction texts with
  | nil => rfl
  | cons text texts ih => rw [readAll, ih, List.mapM_cons]

section

variable {s : Selection} {files : FileTree} {input : Content} {around : Filter.Surroundings}

/-- The documents in sources. -/
def Selection.load (s : Selection) (files : FileTree) (input : Content)
    (around : Filter.Surroundings) (sources : List String) :
    Except RunError (List (Labelled Json)) :=
  ({ sources, selection := s } : InputFlags).documents files input around

/-- The error of an empty text on the standard input. -/
def RunError.emptyInput : RunError :=
  .malformedSource "<stdin>" "EOF while parsing a value at line 1 column 0"

/-- Nothing on the standard input is no document, whatever is selected. -/
theorem Selection.read_emptyInput : s.read around ⟨"<stdin>", ""⟩ = .error .emptyInput := by
  have parsed : Json.parse "" = .error "EOF while parsing a value at line 1 column 0" := by decide
  rw [read, parsed]
  rfl

theorem Selection.load_eq_readAll {inputs : List String} {sources : List Source}
    {texts : List (Labelled String)} (resolved : resolveSources files inputs = .ok sources)
    (read : readSources files input sources = .ok texts) :
    s.load files input around inputs = s.readAll around texts := by
  rw [load, InputFlags.documents, InputFlags.texts, resolved, ok_bind, read]
  rfl

theorem Selection.exists_of_load_eq_ok {inputs : List String} {ds : List (Labelled Json)}
    (h : s.load files input around inputs = .ok ds) : ∃ sources texts,
      resolveSources files inputs = .ok sources ∧ readSources files input sources = .ok texts ∧
        s.readAll around texts = .ok ds := by
  obtain ⟨texts, named, h⟩ := exists_of_bind_eq_ok h
  obtain ⟨sources, resolved, named⟩ := exists_of_bind_eq_ok named
  obtain ⟨_, read, named⟩ := exists_of_bind_eq_ok named
  cases named
  exact ⟨sources, _, resolved, read, h⟩

/-- The documents of two lists of inputs, unless the second one finds the standard input empty. -/
theorem Selection.load_append_eq {xs ys : List String} {ds es : List (Labelled Json)}
    (hxs : s.load files input around xs = .ok ds) (hys : s.load files input around ys = .ok es) :
    s.load files input around (xs ++ ys) =
      if "-" ∈ xs ∧ "-" ∈ ys then .error .emptyInput else .ok (ds ++ es) := by
  obtain ⟨sxs, txs, resolved_xs, read_xs, all_xs⟩ := exists_of_load_eq_ok hxs
  obtain ⟨sys, tys, resolved_ys, read_ys, all_ys⟩ := exists_of_load_eq_ok hys
  have resolved := resolveSources_append resolved_xs resolved_ys
  rw [readAll_eq_mapM] at all_xs all_ys
  have apart (again : readSources files (sxs.foldl Content.behind input) sys = .ok tys) :
      s.load files input around (xs ++ ys) = .ok (ds ++ es) := by
    rw [load_eq_readAll resolved (readSources_append read_xs again), readAll_eq_mapM]
    exact mapM_append_eq_ok all_xs all_ys
  split
  · next both =>
      have mem_xs := (standardInput_mem_iff resolved_xs).mpr both.1
      have mem_ys := (standardInput_mem_iff resolved_ys).mpr both.2
      obtain ⟨front, t, back, rfl, emptied⟩ := exists_texts_of_mem mem_ys read_ys
      rw [← foldl_behind_of_mem mem_xs] at emptied
      rw [load_eq_readAll resolved (readSources_append read_xs emptied), readAll_eq_mapM,
        ← List.append_assoc]
      refine mapM_eq_error_of_first read_emptyInput back fun text mem => ?_
      rcases List.mem_append.mp mem with first | second
      · exact exists_mapM_eq_ok_iff.mp ⟨ds, all_xs⟩ text first
      · exact exists_mapM_eq_ok_iff.mp ⟨es, all_ys⟩ text (List.mem_append_left _ second)
  · next notBoth =>
      by_cases mem_xs : Source.standardInput ∈ sxs
      · have hyphen := (standardInput_mem_iff resolved_xs).mp mem_xs
        have mem_ys : Source.standardInput ∉ sys := fun mem =>
          notBoth ⟨hyphen, (standardInput_mem_iff resolved_ys).mp mem⟩
        exact apart (by rw [readSources_of_not_mem mem_ys, read_ys])
      · exact apart (by rw [foldl_behind_of_not_mem mem_xs, read_ys])

/-- Two lists of inputs with documents have the documents of both together, unless both hold the
standard input: then the second list finds nothing there.  So an input that is not the standard
input gives its documents as often as it stands in the list. -/
theorem Selection.load_append (s : Selection) (files : FileTree) (input : Content)
    (around : Filter.Surroundings) :
    (∀ xs ys ds es, s.load files input around xs = .ok ds → s.load files input around ys = .ok es →
      s.load files input around (xs ++ ys) =
        if "-" ∈ xs ∧ "-" ∈ ys then .error .emptyInput else .ok (ds ++ es)) ∧
    ∀ x ds, x ≠ "-" → s.load files input around [x] = .ok ds →
      ∀ n, s.load files input around (List.replicate n x) = .ok (List.replicate n ds).flatten := by
  refine ⟨fun xs ys ds es => load_append_eq, fun x ds other h n => ?_⟩
  induction n with
  | zero => rfl
  | succ n ih =>
      have both := load_append_eq h ih
      rwa [if_neg fun hyphens => other (List.mem_singleton.mp hyphens.1).symm] at both

/-- A file, the standard input in front of it, and a pattern that finds the file again. -/
theorem Selection.load_file_twice :
    let files : FileTree :=
      { files := [(["w", "a.json"], .text "[]")], directories := [], workingDirectory := ["w"] }
    let around : Filter.Surroundings := { now := { seconds := 0 } }
    let load := Selection.load {} files (.text "{}") around
    load ["-", "a.json"] = .ok [⟨"<stdin>", .object []⟩, ⟨"a.json", .array []⟩] ∧
    load ["?.json"] = .ok [⟨"a.json", .array []⟩] ∧
    load ["-", "a.json", "?.json"] =
      .ok [⟨"<stdin>", .object []⟩, ⟨"a.json", .array []⟩, ⟨"a.json", .array []⟩] ∧
    load ["?.json", "?.json"] = .ok [⟨"a.json", .array []⟩, ⟨"a.json", .array []⟩] := by
  intro files around load
  have first : load ["-", "a.json"] = .ok [⟨"<stdin>", .object []⟩, ⟨"a.json", .array []⟩] := by
    decide +kernel
  have second : load ["?.json"] = .ok [⟨"a.json", .array []⟩] := by decide +kernel
  exact ⟨first, second, (load_append {} files (.text "{}") around).1 _ _ _ _ first second,
    (load_append {} files (.text "{}") around).2 _ _ (by decide) second 2⟩

/-- The standard input gives its document only once. -/
theorem Selection.load_standardInput_twice :
    let files : FileTree := { files := [], directories := [], workingDirectory := ["w"] }
    let around : Filter.Surroundings := { now := { seconds := 0 } }
    let load := Selection.load {} files (.text "{}") around
    load ["-"] = .ok [⟨"<stdin>", .object []⟩] ∧ load (["-"] ++ ["-"]) = .error .emptyInput := by
  intro files around load
  exact ⟨by decide +kernel, by decide +kernel⟩

end

end BodyCheck
