import BodyCheck.Proofs.Precedence

/-!
# Flags over a configuration

The options of a test are those of its configuration, with the flags over them.  `Flags.Merges` says
for each option by itself where it comes from.  There are four rules: a flag takes the place of what
the configuration says (`Overrides`), the method and the address of a request do so together, pairs
are added behind those of the configuration, and a switch can only turn an option one way.  Without
a configuration every option has its default, except that elements are checked together.

The relation names every option, so it leaves no room for a second result (`Flags.Merges.unique`).
A test has options exactly if its configuration and its port can be read, and then these are the
ones that the relation describes (`Flags.resolveTest_eq_ok_iff_merges`).
-/

namespace BodyCheck

/-! ## One option -/

/-- An option is what a flag says, as soon as that can be read, and without the flag it is as
before. -/
inductive Overrides {ε α β : Type} (read : α → Except ε β) :
    Option α → Option β → Option β → Prop where
  | given {a : α} {b : β} {before : Option β} :
      read a = .ok b → Overrides read (some a) before (some b)
  | absent {before : Option β} : Overrides read none before before

section

variable {ε α β : Type} {read : α → Except ε β} {flag : Option α} {before after other : Option β}

theorem Overrides.unique (h : Overrides read flag before after)
    (h' : Overrides read flag before other) : after = other := by
  cases h with
  | given known =>
      cases h' with
      | given known' => rw [Except.ok.inj (known.symm.trans known')]
  | absent =>
      cases h' with
      | absent => rfl

theorem Overrides.exists_read {a : α} (h : Overrides read (some a) before after) :
    ∃ b, read a = .ok b := by
  cases h with
  | given known => exact ⟨_, known⟩

/-- A flag that can always be read. -/
theorem overrides_map_or (f : α → β) (flag : Option α) (before : Option β) :
    Overrides (fun a => (.ok (f a) : Except ε β)) flag before ((flag.map f).or before) := by
  cases flag with
  | none => exact .absent
  | some a => exact .given rfl

theorem overrides_or (flag before : Option β) :
    Overrides (fun b => (.ok b : Except ε β)) flag before (flag.or before) := by
  cases flag with
  | none => exact .absent
  | some b => exact .given rfl

end

/-- The argument that the text of a flag stands for.  Every text stands for one. -/
def argOfFlag (text : String) : Except NumeralError (Arg String) := .ok (Arg.ofText text)

/-! ## All options -/

/-- The request of a test: that of the configuration, with the flags over it. -/
structure TestFlags.Merges (flags : TestFlags) (before r : RequestOptions) : Prop where
  /-- The method and the address come from the same place. -/
  endpoint : (r.method, r.url) = match flags.endpoints with
    | [] => (before.method, before.url)
    | (method, url) :: _ => (some method, some (Arg.ofText url))
  accept : Overrides argOfFlag flags.accept before.accept r.accept
  contentType : Overrides argOfFlag flags.contentType before.contentType r.contentType
  body : Overrides argOfFlag flags.body before.body r.body
  port : Overrides portOfText flags.port before.port r.port
  headers : r.headers = before.headers ++ flags.headers
  cookies : r.cookies = before.cookies ++ flags.cookies
  params : r.params = before.params ++ flags.params
  queryParams : r.queryParams = before.queryParams ++ flags.queryParams

/-- The options of a test: those of the configuration, if there is one, with the flags over them. -/
structure Flags.Merges (flags : Flags) (config : Option Options) (o : Options) : Prop where
  request : flags.test.Merges (config.getD {}).source.request o.source.request
  statusCode : Overrides (fun code => (.ok code : Except NumeralError UInt16))
    flags.test.statusCode (config.getD {}).source.statusCode o.source.statusCode
  format : o.source.format = ((config.getD {}).source.format && !flags.test.compact)
  includeDependencies : o.source.includeDependencies =
    ((config.getD {}).source.includeDependencies || flags.test.imports)
  /-- Without a configuration elements are checked together. -/
  simplifyArrays : o.checks.simplifyArrays =
    (config.elim true (·.checks.simplifyArrays) && !flags.noSimplify)
  checkEmptyContainers : o.checks.checkEmptyContainers =
    ((config.getD {}).checks.checkEmptyContainers || flags.checkEmpty)

theorem TestFlags.Merges.unique {flags : TestFlags} {before r r' : RequestOptions}
    (h : flags.Merges before r) (h' : flags.Merges before r') : r = r' := by
  have endpoint := h.endpoint.trans h'.endpoint.symm
  have accept := h.accept.unique h'.accept
  have contentType := h.contentType.unique h'.contentType
  have body := h.body.unique h'.body
  have port := h.port.unique h'.port
  have headers := h.headers.trans h'.headers.symm
  have cookies := h.cookies.trans h'.cookies.symm
  have params := h.params.trans h'.params.symm
  have queryParams := h.queryParams.trans h'.queryParams.symm
  cases r
  cases r'
  simp_all

/-- The flags and the configuration leave no choice. -/
theorem Flags.Merges.unique {flags : Flags} {config : Option Options} {o o' : Options}
    (h : flags.Merges config o) (h' : flags.Merges config o') : o = o' := by
  have request := h.request.unique h'.request
  have statusCode := h.statusCode.unique h'.statusCode
  have format := h.format.trans h'.format.symm
  have includeDependencies := h.includeDependencies.trans h'.includeDependencies.symm
  have simplifyArrays := h.simplifyArrays.trans h'.simplifyArrays.symm
  have checkEmptyContainers := h.checkEmptyContainers.trans h'.checkEmptyContainers.symm
  obtain ⟨⟨_, _⟩, ⟨_, _, _, _⟩⟩ := o
  obtain ⟨⟨_, _⟩, ⟨_, _, _, _⟩⟩ := o'
  simp_all

/-! ## Options that are settled -/

theorem TestFlags.merges_request {flags : TestFlags} {port : Option (Arg UInt16)}
    {before : RequestOptions} (known : flags.readPort = .ok port) :
    flags.Merges before (flags.request port before) where
  endpoint := by
    rw [request, overridden]
    cases flags.endpoints <;> rfl
  accept := overrides_map_or Arg.ofText flags.accept before.accept
  contentType := overrides_map_or Arg.ofText flags.contentType before.contentType
  body := overrides_map_or Arg.ofText flags.body before.body
  port := by
    rw [readPort] at known
    cases named : flags.port with
    | none =>
        rw [named] at known
        cases known
        exact .absent
    | some text =>
        rw [named] at known
        obtain ⟨p, read, rfl⟩ := exists_of_map_eq_ok known
        exact .given read
  headers := rfl
  cookies := rfl
  params := rfl
  queryParams := rfl

theorem Flags.source_checkOptions (flags : Flags) (config : Option Options) :
    (flags.checkOptions config).source = (config.getD {}).source := by
  cases config <;> rfl

theorem Flags.merges_testOptions {flags : Flags} {config : Option Options} {o : Options}
    (h : flags.testOptions config = .ok o) : flags.Merges config o := by
  obtain ⟨port, known, same⟩ := exists_of_bind_eq_ok h
  cases same
  rw [source_checkOptions]
  exact
    { request := TestFlags.merges_request known
      statusCode := overrides_or _ _
      format := rfl
      includeDependencies := rfl
      simplifyArrays := by cases config <;> rfl
      checkEmptyContainers := by cases config <;> rfl }

/-- The port can be read if an option comes from it. -/
theorem TestFlags.Merges.exists_readPort {flags : TestFlags} {before r : RequestOptions}
    (h : flags.Merges before r) : ∃ port, flags.readPort = .ok port := by
  refine exists_eq_ok_of_ne_error fun e fails => ?_
  obtain ⟨text, named, unread⟩ := readPort_eq_error_iff.mp fails
  obtain ⟨p, read⟩ := (named ▸ h.port).exists_read
  rw [unread] at read
  cases read

/-- With a configuration the options of a test are those that the flags over it leave. -/
theorem Flags.testOptions_eq_ok_iff {flags : Flags} {config : Option Options} {o : Options} :
    flags.testOptions config = .ok o ↔ flags.Merges config o := by
  refine ⟨merges_testOptions, fun merges => ?_⟩
  -- with a port that can be read there are some options, and no others fit
  obtain ⟨port, known⟩ := merges.request.exists_readPort
  obtain ⟨o', settled⟩ : ∃ o', flags.testOptions config = .ok o' := by
    rw [testOptions, known]
    exact ⟨_, rfl⟩
  rw [settled, (merges_testOptions settled).unique merges]

/-- A test has options exactly if its configuration and its port can be read.  Then they are the
options of the configuration with the flags over them, each one by its own rule, and nothing else is
touched. -/
theorem Flags.resolveTest_eq_ok_iff_merges (flags : Flags) (files : FileTree) :
    (∀ o, flags.resolveTest files = .ok o ↔
      ∃ config, flags.readConfig files = .ok config ∧ flags.Merges config o) ∧
    ((∃ e, flags.resolveTest files = .error e) ↔
      (∃ e, flags.readConfig files = .error e) ∨
        ∃ text e, flags.test.port = some text ∧ portOfText text = .error e) := by
  cases ready : flags.readConfig files with
  | error e =>
      have fails : flags.resolveTest files = .error e := by rw [resolveTest, ready, error_bind]
      simp [fails]
  | ok config =>
      constructor
      · intro o
        rw [resolveTest, ready, ok_bind, mapError_eq_ok_iff, testOptions_eq_ok_iff]
        simp
      · simp only [resolveTest_eq_error_iff ready]
        constructor
        · rintro ⟨_, text, e, named, unread, -⟩
          exact .inr ⟨text, e, named, unread⟩
        · rintro (⟨e, ⟨⟩⟩ | ⟨text, e, named, unread⟩)
          exact ⟨_, text, e, named, unread, rfl⟩

end BodyCheck
