import BodyCheck.Proofs.Batches
import BodyCheck.Proofs.Loading
import Mathlib.Data.Prod.Lex
import Mathlib.Order.WellFounded

/-!
# The first failing step

A run takes its steps in a fixed order: the configuration is read and parsed, the port is read, all
inputs are resolved, all sources are read, every document is parsed and its body selected, and only
then the bodies are turned into tests or checks.  What each step does by itself is described by
`Invocation.Fails`, which does not ask whether other steps fail too.  A run fails with the error of
the first step that does, and it puts out one result for each document if no step fails
(`Invocation.run_fails_first`).
-/

namespace BodyCheck

/-! ## Steps -/

/-- A step of a run that can fail, with the number of the input or of the document it is about. -/
inductive Stage where
  | readConfig
  | parseConfig
  | readPort
  | resolve (k : ℕ)
  | read (k : ℕ)
  | parse (k : ℕ)
  | point (k : ℕ)
  | filter (k : ℕ)
  /-- All documents become tests, in no particular order. -/
  | compile
  | analyze (k : ℕ)
deriving DecidableEq, Repr

/-- The part of a run that a step belongs to. -/
@[simp] def Stage.phase : Stage → ℕ
  | .readConfig => 0
  | .parseConfig => 1
  | .readPort => 2
  | .resolve _ => 3
  | .read _ => 4
  | .parse _ | .point _ | .filter _ => 5
  | .compile | .analyze _ => 6

/-- The place of a step among those of its part.  A document is parsed and its body selected before
the next document has its turn. -/
@[simp] def Stage.place : Stage → ℕ
  | .readConfig | .parseConfig | .readPort | .compile => 0
  | .resolve k | .read k | .analyze k => k
  | .parse k => 3 * k
  | .point k => 3 * k + 1
  | .filter k => 3 * k + 2

/-- The place of a step in a run. -/
def Stage.rank (s : Stage) : ℕ ×ₗ ℕ := toLex (s.phase, s.place)

@[simp] theorem Stage.rank_lt_iff {s t : Stage} :
    s.rank < t.rank ↔ s.phase < t.phase ∨ s.phase = t.phase ∧ s.place < t.place :=
  Prod.Lex.toLex_lt_toLex

@[simp] theorem Stage.rank_le_iff {s t : Stage} :
    s.rank ≤ t.rank ↔ s.phase < t.phase ∨ s.phase = t.phase ∧ s.place ≤ t.place :=
  Prod.Lex.toLex_le_toLex

/-! ## Failing steps -/

/-- What reading a document gives.  All that matters for it are the inputs up to the one with its
source. -/
def Invocation.Reads (c : Invocation) (files : FileTree) (input : Content) (k : ℕ)
    (outcome : Except RunError (Labelled String)) : Prop :=
  ∃ front sources, front <+: c.flags.input.sources ∧ resolveSources files front = .ok sources ∧
    (c.flags.input.readings files input sources)[k]? = some outcome

/-- A step fails with an error.  Every step is looked at by itself: it can fail although another one
in front of it fails as well. -/
inductive Invocation.Fails (c : Invocation) (files : FileTree) (input : Content)
    (around : Filter.Surroundings) : Stage → RunError → Prop where
  | readConfig {path : String} {e : FileError} :
      c.flags.config = some path → files.read path = .error e →
      Fails c files input around .readConfig (.unreadableConfig path e)
  | parseConfig {path text : String} {f : Config.Fault} :
      c.flags.config = some path → files.read path = .ok text → Config.parse text = .error f →
      Fails c files input around .parseConfig
        (.invalidConfig path (f.errorText text.toList) (f.message text.toList))
  | readPort {text : String} {e : NumeralError} :
      c.verb = .test → c.flags.test.port = some text → portOfText text = .error e →
      Fails c files input around .readPort (.invalidPort text e)
  | resolve {k : ℕ} {x : String} {e : RunError} :
      c.flags.input.sources[k]? = some x → x ≠ "-" → x.toList.any isPatternChar →
      files.Unresolved x e → Fails c files input around (.resolve k) e
  | read {k : ℕ} {e : RunError} :
      c.Reads files input k (.error e) → Fails c files input around (.read k) e
  | parse {k : ℕ} {text : Labelled String} {message : String} :
      c.Reads files input k (.ok text) → Json.parse text.content = .error message →
      Fails c files input around (.parse k) (.malformedSource text.label message)
  | point {k : ℕ} {text : Labelled String} {v : Json} {e : SelectionError} :
      c.Reads files input k (.ok text) → Json.parse text.content = .ok v →
      c.flags.input.selection.byPointer v = .error e →
      Fails c files input around (.point k) (.noBody text.label e)
  | filter {k : ℕ} {text : Labelled String} {v part : Json} {e : SelectionError} :
      c.Reads files input k (.ok text) → Json.parse text.content = .ok v →
      c.flags.input.selection.byPointer v = .ok part →
      c.flags.input.selection.byFilter around part = .error e →
      Fails c files input around (.filter k) (.noBody text.label e)
  | compile {k : ℕ} {text : Labelled String} {d : Labelled Json} :
      c.verb = .test → c.Reads files input k (.ok text) →
      c.flags.input.selection.read around text = .ok d → d.content.isContainer = false →
      Fails c files input around .compile (.notCompiled d.label (.unsupportedRoot d.content.kind))
  | analyze {k : ℕ} {text : Labelled String} {d : Labelled Json} :
      c.verb = .assertions → c.Reads files input k (.ok text) →
      c.flags.input.selection.read around text = .ok d → d.content.isContainer = false →
      Fails c files input around (.analyze k)
        (.notAnalyzed d.label (.unsupportedRoot d.content.kind))

/-- No step in front of this one fails. -/
def Invocation.Reaches (c : Invocation) (files : FileTree) (input : Content)
    (around : Filter.Surroundings) (s : Stage) : Prop :=
  ∀ s' e, s'.rank < s.rank → ¬ c.Fails files input around s' e

section

variable {c : Invocation} {files : FileTree} {input : Content} {around : Filter.Surroundings}

/-- Whoever gets to a step has got to every step before it. -/
theorem Invocation.Reaches.of_le {s t : Stage} (h : c.Reaches files input around t)
    (le : s.rank ≤ t.rank) : c.Reaches files input around s :=
  fun s' e before => h s' e (before.trans_le le)

/-! ## Options -/

/-- The options of a command. -/
def Invocation.options (c : Invocation) (files : FileTree) : Except RunError Options :=
  match c.verb with
  | .test => c.flags.resolveTest files
  | .assertions => c.flags.resolveChecks files

/-- What a command shows for bodies. -/
def Invocation.shown (c : Invocation) (options : Options) (docs : List (Labelled Json)) :
    Except RunError String :=
  match c.verb with
  | .test => testBatch options docs
  | .assertions => checkBatch options docs

/-- A run settles the options, loads the documents, and shows what comes of them. -/
theorem Invocation.run_eq (c : Invocation) (files : FileTree) (input : Content)
    (around : Filter.Surroundings) : c.run files input around =
      (c.options files >>= fun options => c.flags.input.documents files input around >>= fun docs =>
        c.shown options docs) >>= putOut files c.flags.out := by
  obtain ⟨verb, flags⟩ := c
  cases verb <;> rfl

/-- A configuration is missing exactly if it cannot be read or parsed. -/
theorem Invocation.readConfig_eq_error_iff {e : RunError} :
    c.flags.readConfig files = .error e ↔
      c.Fails files input around .readConfig e ∨ c.Fails files input around .parseConfig e := by
  constructor
  · intro h
    rw [Flags.readConfig] at h
    split at h
    · cases h
    · next path named =>
        cases content : files.read path with
        | error reason =>
            rw [readConfig, content] at h
            cases h
            exact .inl (.readConfig named content)
        | ok text =>
            rw [readConfig, content, mapError_ok, ok_bind] at h
            cases parsed : Config.parse text with
            | error f =>
                rw [parsed] at h
                cases h
                exact .inr (.parseConfig named content parsed)
            | ok options =>
                rw [parsed] at h
                cases h
  · rintro (fault | fault)
    · cases fault with
      | readConfig named content => simp [Flags.readConfig, named, readConfig, content, Except.map]
    · cases fault with
      | parseConfig named content parsed =>
          simp [Flags.readConfig, named, readConfig, content, parsed, Except.map]

theorem Invocation.options_of_readConfig {e : RunError} (h : c.flags.readConfig files = .error e) :
    c.options files = .error e := by
  rw [options, Flags.resolveTest, Flags.resolveChecks, h]
  cases c.verb <;> rfl

theorem TestFlags.readPort_eq_error_iff {flags : TestFlags} {e : NumeralError} :
    flags.readPort = .error e ↔ ∃ text, flags.port = some text ∧ portOfText text = .error e := by
  rw [readPort]
  cases flags.port with
  | none => simp
  | some text => cases read : portOfText text <;> simp [Except.map, read]

/-- With a configuration only the port can be missing. -/
theorem Flags.resolveTest_eq_error_iff {flags : Flags} {config : Option Options} {e : RunError}
    (ready : flags.readConfig files = .ok config) : flags.resolveTest files = .error e ↔
      ∃ text reason, flags.test.port = some text ∧ portOfText text = .error reason ∧
        e = .invalidPort text reason := by
  rw [resolveTest, ready, ok_bind, testOptions]
  cases port : flags.test.readPort with
  | ok port =>
      simp only [ok_bind, pure, Except.pure, mapError_ok, reduceCtorEq, false_iff]
      rintro ⟨text, reason, named, fails, -⟩
      rw [TestFlags.readPort_eq_error_iff.mpr ⟨text, named, fails⟩] at port
      cases port
  | error reason =>
      obtain ⟨text, named, fails⟩ := TestFlags.readPort_eq_error_iff.mp port
      simp only [error_bind, mapError_error, named, Option.getD_some, Option.some.injEq]
      constructor
      · rintro ⟨⟩
        exact ⟨text, reason, rfl, fails, rfl⟩
      · rintro ⟨_, _, rfl, fails', rfl⟩
        rw [fails] at fails'
        cases fails'
        rfl

/-- Options are missing only if one of the first three steps fails. -/
theorem Invocation.fails_of_options {e : RunError} (h : c.options files = .error e) :
    c.Fails files input around .readConfig e ∨ c.Fails files input around .parseConfig e ∨
      c.Fails files input around .readPort e := by
  cases ready : c.flags.readConfig files with
  | error e' =>
      rw [options_of_readConfig ready] at h
      cases h
      rcases readConfig_eq_error_iff.mp ready with read | parse
      · exact .inl read
      · exact .inr (.inl parse)
  | ok config =>
      rw [options] at h
      cases verb : c.verb with
      | test =>
          rw [verb] at h
          obtain ⟨text, reason, named, fails, rfl⟩ := (Flags.resolveTest_eq_error_iff ready).mp h
          exact .inr (.inr (.readPort verb named fails))
      | assertions =>
          rw [verb] at h
          simp only [Flags.resolveChecks, ready] at h
          cases h

theorem Invocation.Reaches.options (h : c.Reaches files input around (.resolve 0)) :
    ∃ options, c.options files = .ok options := by
  refine exists_eq_ok_of_ne_error fun e fails => ?_
  rcases fails_of_options fails with read | parse | port
  · exact h _ _ (by simp) read
  · exact h _ _ (by simp) parse
  · exact h _ _ (by simp) port

/-- With the configuration at hand the port decides the error. -/
theorem Invocation.options_of_readPort {e : RunError} (h : c.Reaches files input around .readPort)
    (fault : c.Fails files input around .readPort e) : c.options files = .error e := by
  obtain ⟨config, ready⟩ : ∃ config, c.flags.readConfig files = .ok config := by
    refine exists_eq_ok_of_ne_error fun e' fails => ?_
    rcases readConfig_eq_error_iff.mp fails with read | parse
    · exact h _ _ (by simp) read
    · exact h _ _ (by simp) parse
  cases fault with
  | readPort verb named fails =>
      rw [options, verb]
      exact (Flags.resolveTest_eq_error_iff ready).mpr ⟨_, _, named, fails, rfl⟩

/-! ## Documents -/

/-- Once no input fails to resolve, the sources are known. -/
theorem Invocation.Reaches.sources (h : c.Reaches files input around (.read 0)) :
    ∃ sources, resolveSources files c.flags.input.sources = .ok sources := by
  rw [resolveSources_eq_mapM]
  have all : ∃ groups, c.flags.input.sources.mapM (sourcesOf files) = .ok groups := by
    refine exists_mapM_eq_ok_of_getElem? fun k x e place fails => ?_
    obtain ⟨other, wild, unresolved⟩ := sourcesOf_eq_error_iff.mp fails
    exact h _ _ (by simp) (.resolve place other wild unresolved)
  obtain ⟨groups, hgroups⟩ := all
  exact ⟨groups.flatten, by rw [hgroups]; rfl⟩

/-- Once all inputs are resolved, what is read for a document stands at its place among all that is
read. -/
theorem Invocation.reads_iff {sources : List Source} {k : ℕ}
    {outcome : Except RunError (Labelled String)}
    (resolved : resolveSources files c.flags.input.sources = .ok sources) :
    c.Reads files input k outcome ↔
      (c.flags.input.readings files input sources)[k]? = some outcome := by
  constructor
  · rintro ⟨front, first, ahead, known, place⟩
    obtain ⟨first', known', start⟩ := exists_resolveSources_of_prefix ahead resolved
    rw [known] at known'
    cases known'
    obtain ⟨rest, whole⟩ := c.flags.input.readings_prefix files input start
    rw [← whole, List.getElem?_append_left (List.getElem?_eq_some_iff.mp place).1, place]
  · exact fun place => ⟨_, sources, List.prefix_rfl, resolved, place⟩

theorem Invocation.documents_of_texts {e : RunError}
    (h : c.flags.input.texts files input = .error e) :
    c.flags.input.documents files input around = .error e := by
  rw [InputFlags.documents, h, error_bind]

/-- The first input that cannot be resolved decides the error, before anything is read. -/
theorem Invocation.documents_of_resolve {k : ℕ} {e : RunError}
    (h : c.Reaches files input around (.resolve k))
    (fault : c.Fails files input around (.resolve k) e) :
    c.flags.input.documents files input around = .error e := by
  cases fault with
  | resolve place other wild unresolved =>
      have fails := sourcesOf_eq_error_iff.mpr ⟨other, wild, unresolved⟩
      have failed : c.flags.input.sources.mapM (sourcesOf files) = .error e := by
        refine mapM_eq_error_of_getElem? place fails fun j before y e' there fails => ?_
        obtain ⟨other, wild, unresolved⟩ := sourcesOf_eq_error_iff.mp fails
        exact h _ _ (by simpa using before) (.resolve there other wild unresolved)
      refine documents_of_texts ?_
      rw [InputFlags.texts, resolveSources_eq_mapM, failed]
      rfl

/-- The first source that cannot be read decides the error, before anything is parsed. -/
theorem Invocation.documents_of_read {k : ℕ} {e : RunError}
    (h : c.Reaches files input around (.read k)) (fault : c.Fails files input around (.read k) e) :
    c.flags.input.documents files input around = .error e := by
  obtain ⟨sources, resolved⟩ := Reaches.sources (h.of_le (by simp))
  cases fault with
  | read reads =>
      refine documents_of_texts ?_
      rw [InputFlags.texts_eq_mapM resolved]
      refine mapM_eq_error_of_getElem? ((reads_iff resolved).mp reads) rfl
        fun j before outcome e' place failed => ?_
      cases failed
      exact h _ _ (by simpa using before) (.read ((reads_iff resolved).mpr place))

/-- Once everything is read, the documents are known by their texts. -/
theorem Invocation.Reaches.texts (h : c.Reaches files input around (.parse 0)) :
    ∃ texts, c.flags.input.texts files input = .ok texts ∧
      ∀ k text, c.Reads files input k (.ok text) ↔ texts[k]? = some text := by
  obtain ⟨sources, resolved⟩ := Reaches.sources (h.of_le (by simp))
  have all : ∃ texts, (c.flags.input.readings files input sources).mapM id = .ok texts := by
    refine exists_mapM_eq_ok_of_getElem? fun k outcome e place failed => ?_
    cases failed
    exact h _ _ (by simp) (.read ((reads_iff resolved).mpr place))
  obtain ⟨texts, htexts⟩ := all
  refine ⟨texts, by rw [InputFlags.texts_eq_mapM resolved, htexts], fun k text => ?_⟩
  rw [reads_iff resolved, eq_map_ok_of_mapM_id htexts, List.getElem?_map]
  simp

/-! ## Bodies -/

theorem Selection.read_of_parse {s : Selection} {text : Labelled String} {message : String}
    (parsed : Json.parse text.content = .error message) :
    s.read around text = .error (.malformedSource text.label message) := by
  rw [read, parsed]
  rfl

theorem Selection.read_of_body {s : Selection} {text : Labelled String} {v : Json}
    (parsed : Json.parse text.content = .ok v) :
    s.read around text =
      ((s.body around v).mapError (.noBody text.label)).map (Labelled.mk text.label) := by
  rw [read, parsed, mapError_ok, ok_bind]
  cases s.body around v <;> rfl

/-- A document has no body exactly if parsing, pointing or filtering fails. -/
theorem Invocation.selection_fails_iff {k : ℕ} {e : RunError} :
    (∃ text, c.Reads files input k (.ok text) ∧
        c.flags.input.selection.read around text = .error e) ↔
      c.Fails files input around (.parse k) e ∨ c.Fails files input around (.point k) e ∨
        c.Fails files input around (.filter k) e := by
  constructor
  · rintro ⟨text, reads, h⟩
    cases parsed : Json.parse text.content with
    | error message =>
        rw [Selection.read_of_parse parsed] at h
        cases h
        exact .inl (.parse reads parsed)
    | ok v =>
        rw [Selection.read_of_body parsed, Selection.body] at h
        cases pointed : c.flags.input.selection.byPointer v with
        | error reason =>
            rw [pointed] at h
            cases h
            exact .inr (.inl (.point reads parsed pointed))
        | ok part =>
            rw [pointed, ok_bind] at h
            cases filtered : c.flags.input.selection.byFilter around part with
            | error reason =>
                rw [filtered] at h
                cases h
                exact .inr (.inr (.filter reads parsed pointed filtered))
            | ok body =>
                rw [filtered] at h
                cases h
  · rintro (fault | fault | fault)
    · cases fault with
      | parse reads parsed => exact ⟨_, reads, Selection.read_of_parse parsed⟩
    · cases fault with
      | point reads parsed pointed =>
          refine ⟨_, reads, ?_⟩
          rw [Selection.read_of_body parsed, Selection.body, pointed]
          rfl
    · cases fault with
      | filter reads parsed pointed filtered =>
          refine ⟨_, reads, ?_⟩
          rw [Selection.read_of_body parsed, Selection.body, pointed, ok_bind, filtered]
          rfl

/-- Every document before the one that a run has got to has its body. -/
theorem Invocation.Reaches.not_selection {s : Stage} (h : c.Reaches files input around s) {j : ℕ}
    (before : (Stage.filter j).rank < s.rank) {text : Labelled String}
    (reads : c.Reads files input j (.ok text)) (e : RunError) :
    c.flags.input.selection.read around text ≠ .error e := by
  intro fails
  rcases selection_fails_iff.mp ⟨text, reads, fails⟩ with parse | point | filter
  · exact h _ _ (lt_of_le_of_lt (by simp) before) parse
  · exact h _ _ (lt_of_le_of_lt (by simp) before) point
  · exact h _ _ before filter

/-- The document that comes first among those without a body decides the error. -/
theorem Invocation.documents_of_selection {k : ℕ} {e : RunError}
    (h : c.Reaches files input around (.parse k))
    (body : ∃ text, c.Reads files input k (.ok text) ∧
      c.flags.input.selection.read around text = .error e) :
    c.flags.input.documents files input around = .error e := by
  obtain ⟨text, reads, fails⟩ := body
  obtain ⟨texts, read, places⟩ := Reaches.texts (h.of_le (by simp))
  rw [InputFlags.documents, read, ok_bind, Selection.readAll_eq_mapM]
  refine mapM_eq_error_of_getElem? ((places k text).mp reads) fails
    fun j before other e' place => ?_
  exact h.not_selection (by simp; omega) ((places j other).mpr place) e'

/-- Once every document has its body, the bodies stand in the order of the texts. -/
theorem Invocation.Reaches.documents (h : c.Reaches files input around .compile) :
    ∃ docs, c.flags.input.documents files input around = .ok docs ∧
      ∀ k d, docs[k]? = some d ↔ ∃ text, c.Reads files input k (.ok text) ∧
        c.flags.input.selection.read around text = .ok d := by
  obtain ⟨texts, read, places⟩ := Reaches.texts (h.of_le (by simp))
  have all : ∃ docs, texts.mapM (c.flags.input.selection.read around) = .ok docs :=
    exists_mapM_eq_ok_of_getElem? fun k text e place =>
      h.not_selection (by simp) ((places k text).mpr place) e
  obtain ⟨docs, hdocs⟩ := all
  refine ⟨docs, ?_, fun k d => ?_⟩
  · rw [InputFlags.documents, read, ok_bind, Selection.readAll_eq_mapM, hdocs]
  · simp only [getElem?_of_mapM_eq_ok hdocs, places]

/-! ## Results -/

/-- What is shown is put together from one result for each document, in the order of the
documents. -/
inductive Invocation.Shows (c : Invocation) (files : FileTree) (docs : List (Labelled Json)) :
    String → Prop where
  | tests {options : Options} {results : List (Labelled String)} :
      c.verb = .test → c.flags.resolveTest files = .ok options →
      List.Forall₂ (fun d r => r.label = d.label ∧ compileValue options d.content = .ok r.content)
        docs results →
      Shows c files docs (showSources results)
  | checks {options : Options} {results : List (Labelled (List Check))} :
      c.verb = .assertions → c.flags.resolveChecks files = .ok options →
      List.Forall₂ (fun d r => r.label = d.label ∧
        checksOf options.checks d.content = .ok r.content) docs results →
      Shows c files docs (showChecks results)

theorem Invocation.run_of_options {e : RunError} (h : c.options files = .error e) :
    c.run files input around = .error e := by
  rw [run_eq, h]
  rfl

theorem Invocation.run_of_documents {e : RunError}
    (ready : c.Reaches files input around (.resolve 0))
    (h : c.flags.input.documents files input around = .error e) :
    c.run files input around = .error e := by
  obtain ⟨options, settled⟩ := ready.options
  rw [run_eq, settled, h]
  rfl

/-- With options and documents at hand, only showing and putting out are left. -/
theorem Invocation.run_of_shown {options : Options} {docs : List (Labelled Json)}
    (settled : c.options files = .ok options)
    (loaded : c.flags.input.documents files input around = .ok docs) :
    c.run files input around = c.shown options docs >>= putOut files c.flags.out := by
  rw [run_eq, settled, loaded]
  rfl

/-- One of the scalars decides the error. -/
theorem Invocation.run_of_compile {e : RunError} (h : c.Reaches files input around .compile)
    (fault : c.Fails files input around .compile e) :
    ∃ e', c.Fails files input around .compile e' ∧ c.run files input around = .error e' := by
  obtain ⟨options, settled⟩ := Reaches.options (h.of_le (by simp))
  obtain ⟨docs, loaded, places⟩ := h.documents
  have refuses := refusesScalars_compileValue options
  cases fault with
  | compile verb reads read scalar =>
      rw [run_of_shown settled loaded, shown, verb]
      cases results : docs.mapM (resultOf (compileValue options) .notCompiled) with
      | error e' =>
          obtain ⟨before, d, after, split, -, fails⟩ := mapM_eq_error_iff.mp results
          obtain ⟨scalar, rfl⟩ := refuses.resultOf_eq_error_iff.mp fails
          obtain ⟨text, reads, read⟩ := (places before.length d).mp (by simp [split])
          refine ⟨_, .compile verb reads read scalar, ?_⟩
          simp only [testBatch_eq_map, results]
          rfl
      | ok shown =>
          have mem := List.mem_of_getElem? ((places _ _).mpr ⟨_, reads, read⟩)
          obtain ⟨r, result⟩ := exists_mapM_eq_ok_iff.mp ⟨shown, results⟩ _ mem
          rw [refuses.resultOf_eq_error_iff.mpr ⟨scalar, rfl⟩] at result
          cases result

/-- The first scalar decides the error of a run for checks. -/
theorem Invocation.run_of_analyze {k : ℕ} {e : RunError}
    (h : c.Reaches files input around (.analyze k))
    (fault : c.Fails files input around (.analyze k) e) : c.run files input around = .error e := by
  obtain ⟨options, settled⟩ := Reaches.options (h.of_le (by simp))
  obtain ⟨docs, loaded, places⟩ := Reaches.documents (h.of_le (by simp))
  have refuses := refusesScalars_checksOf options.checks
  cases fault with
  | @analyze _ text d verb reads read scalar =>
      have results : docs.mapM (resultOf (checksOf options.checks) .notAnalyzed) =
          .error (.notAnalyzed d.label (.unsupportedRoot d.content.kind)) := by
        refine mapM_eq_error_of_getElem? ((places k d).mpr ⟨text, reads, read⟩)
          (refuses.resultOf_eq_error_iff.mpr ⟨scalar, rfl⟩) fun j before d e' place fails => ?_
        obtain ⟨scalar, rfl⟩ := refuses.resultOf_eq_error_iff.mp fails
        obtain ⟨text, reads, read⟩ := (places j d).mp place
        exact h _ _ (by simpa using before) (.analyze verb reads read scalar)
      rw [run_of_shown settled loaded, shown, verb]
      simp only [checkBatch_eq_map, results]
      rfl

/-- Apart from tests, a run that gets to a failing step ends with its error. -/
theorem Invocation.run_of_reaches {s : Stage} {e : RunError} (h : c.Reaches files input around s)
    (fault : c.Fails files input around s e) (single : s ≠ .compile) :
    c.run files input around = .error e := by
  cases s with
  | readConfig =>
      exact run_of_options (options_of_readConfig (readConfig_eq_error_iff.mpr (.inl fault)))
  | parseConfig =>
      exact run_of_options (options_of_readConfig (readConfig_eq_error_iff.mpr (.inr fault)))
  | readPort => exact run_of_options (options_of_readPort h fault)
  | resolve k => exact run_of_documents (h.of_le (by simp)) (documents_of_resolve h fault)
  | read k => exact run_of_documents (h.of_le (by simp)) (documents_of_read h fault)
  | parse k =>
      have body := selection_fails_iff.mpr (.inl fault)
      exact run_of_documents (h.of_le (by simp)) (documents_of_selection h body)
  | point k =>
      have body := selection_fails_iff.mpr (.inr (.inl fault))
      exact run_of_documents (h.of_le (by simp)) (documents_of_selection (h.of_le (by simp)) body)
  | filter k =>
      have body := selection_fails_iff.mpr (.inr (.inr fault))
      exact run_of_documents (h.of_le (by simp)) (documents_of_selection (h.of_le (by simp)) body)
  | compile => exact absurd rfl single
  | analyze k => exact run_of_analyze h fault

/-- There is a first one among failing steps. -/
theorem Invocation.exists_reaches {s : Stage} {e : RunError}
    (fault : c.Fails files input around s e) :
    ∃ s e, c.Reaches files input around s ∧ c.Fails files input around s e := by
  have wf : WellFounded fun s t : Stage => s.rank < t.rank := InvImage.wf Stage.rank wellFounded_lt
  obtain ⟨first, ⟨e, fault⟩, least⟩ :=
    wf.has_min {s | ∃ e, c.Fails files input around s e} ⟨s, e, fault⟩
  exact ⟨first, e, fun s' e' before fault' => least s' ⟨e', fault'⟩ before, fault⟩

/-- Without a failing step there is a result for every document, and it is put out. -/
theorem Invocation.run_of_not_fails (h : ∀ s e, ¬ c.Fails files input around s e) :
    ∃ docs text, c.flags.input.documents files input around = .ok docs ∧ c.Shows files docs text ∧
      c.run files input around = putOut files c.flags.out text := by
  have clear (s : Stage) : c.Reaches files input around s := fun s' e _ => h s' e
  obtain ⟨options, settled⟩ := (clear _).options
  obtain ⟨docs, loaded, places⟩ := (clear _).documents
  have containers : ∀ d ∈ docs, d.content.isContainer := by
    intro d mem
    by_contra scalar
    obtain ⟨k, place⟩ := List.mem_iff_getElem?.mp mem
    obtain ⟨text, reads, read⟩ := (places k d).mp place
    cases verb : c.verb with
    | test => exact h _ _ (.compile verb reads read (by simpa using scalar))
    | assertions => exact h _ _ (.analyze verb reads read (by simpa using scalar))
  have run := run_of_shown settled loaded
  cases verb : c.verb with
  | test =>
      obtain ⟨results, each, order⟩ :=
        (refusesScalars_compileValue options).exists_results .notCompiled containers
      rw [shown, verb] at run
      simp only [testBatch_eq_map, each] at run
      rw [Invocation.options, verb] at settled
      exact ⟨docs, _, loaded, .tests verb settled order, run⟩
  | assertions =>
      obtain ⟨results, each, order⟩ :=
        (refusesScalars_checksOf options.checks).exists_results .notAnalyzed containers
      rw [shown, verb] at run
      simp only [checkBatch_eq_map, each] at run
      rw [Invocation.options, verb] at settled
      exact ⟨docs, _, loaded, .checks verb settled order, run⟩

/-- A run fails with the error of the first step that fails, whatever the steps behind it do; among
tests that cannot be written it does not matter which one is first.  If no step fails, what is put
out holds one result for each document. -/
theorem Invocation.run_fails_first (c : Invocation) (files : FileTree) (input : Content)
    (around : Filter.Surroundings) :
    (∀ s e, c.Reaches files input around s → c.Fails files input around s e → s ≠ .compile →
      c.run files input around = .error e) ∧
    (∀ e, c.Reaches files input around .compile → c.Fails files input around .compile e →
      ∃ e', c.Fails files input around .compile e' ∧ c.run files input around = .error e') ∧
    ((∀ s e, c.Reaches files input around s → ¬ c.Fails files input around s e) →
      ∃ docs text, c.flags.input.documents files input around = .ok docs ∧ c.Shows files docs text ∧
        c.run files input around = putOut files c.flags.out text) := by
  refine ⟨fun s e => run_of_reaches, fun e => run_of_compile, fun h => run_of_not_fails ?_⟩
  intro s e fault
  obtain ⟨first, e', reached, fault'⟩ := exists_reaches fault
  exact h first e' reached fault'

/-- A file that is not there, and behind it an input that is no pattern: nothing is read before all
inputs are resolved. -/
theorem Invocation.run_broken_pattern :
    let c : Invocation := ⟨.test, { input := { sources := ["a.json", "["] } }⟩
    let files : FileTree := { files := [], directories := [], workingDirectory := ["w"] }
    let input : Content := .text ""
    let around : Filter.Surroundings := { now := { seconds := 0 } }
    let broken : RunError := .invalidPattern "[" ⟨.invalidRange, 0⟩
    ofArguments ["test", "--input", "a.json", "["] = .ok c ∧
    c.Fails files input around (.read 0) (.unreadableSource "a.json" .absent) ∧
    c.Reaches files input around (.resolve 1) ∧ c.Fails files input around (.resolve 1) broken ∧
    c.run files input around = .error broken := by
  intro c files input around broken
  have read : c.Fails files input around (.read 0) (.unreadableSource "a.json" .absent) :=
    .read ⟨["a.json"], [.file "a.json"], ⟨["["], rfl⟩, by decide, by decide⟩
  have reached : c.Reaches files input around (.resolve 1) := by
    intro s e before fault
    cases fault with
    | readConfig named | parseConfig named => cases named
    | readPort verb named => cases named
    | resolve place other wild =>
        obtain rfl : _ = 0 := by simpa using before
        cases place
        exact absurd wild (by decide)
    | read | parse | point | filter | compile | analyze => simp at before
  have resolve : c.Fails files input around (.resolve 1) broken :=
    .resolve rfl (by decide) (by decide) (.invalid (by decide))
  exact ⟨by decide +kernel, read, reached, resolve,
    (run_fails_first c files input around).1 _ _ reached resolve nofun⟩

end

end BodyCheck
