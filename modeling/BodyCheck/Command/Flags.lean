import BodyCheck.Command.Written

/-!
# Flags

What the flags of a command say.  The flags of a test come in three groups: where the documents are
and which part of them is meant, which checks are derived, and how the test is written.
-/

namespace BodyCheck

/-- Which part of a document is the body: first by a pointer, then by a filter. -/
structure Selection where
  pointer : Option String := none
  filter : Option String := none
deriving DecidableEq, Repr, Inhabited

/-- Where documents are. -/
structure InputFlags where
  /-- The text of the only document. -/
  inlineText : Option String := none
  /-- Paths, patterns, and `-` for the standard input. -/
  sources : List String := []
  selection : Selection := {}
deriving DecidableEq, Repr, Inhabited

/-- How a test is written. -/
structure TestFlags where
  /-- The method and the address of the request. -/
  endpoints : List (Method × String) := []
  accept : Option String := none
  contentType : Option String := none
  body : Option String := none
  port : Option String := none
  headers : List Pair := []
  cookies : List Pair := []
  params : List Pair := []
  queryParams : List Pair := []
  statusCode : Option UInt16 := none
  /-- Everything stands on one line. -/
  compact : Bool := false
  imports : Bool := false
deriving DecidableEq, Repr, Inhabited

/-- What all flags say. -/
structure Flags where
  input : InputFlags := {}
  /-- The path of a configuration. -/
  config : Option String := none
  /-- Elements of arrays keep checks of their own. -/
  noSimplify : Bool := false
  /-- Empty containers are checked. -/
  checkEmpty : Bool := false
  test : TestFlags := {}
  /-- The path of the output. -/
  out : Option String := none
deriving DecidableEq, Repr, Inhabited

/-! ## Options -/

/-- The options without a configuration. -/
def defaultOptions : Options := { checks := { simplifyArrays := true } }

/-- The options under the flags that say which checks are derived. -/
def Flags.checkOptions (flags : Flags) (config : Option Options) : Options :=
  let options := config.getD defaultOptions
  { options with
    checks :=
      { simplifyArrays := options.checks.simplifyArrays && !flags.noSimplify
        checkEmptyContainers := options.checks.checkEmptyContainers || flags.checkEmpty } }

/-- An argument from a flag, or else the one there is. -/
def overridden (flag : Option String) (arg : Option (Arg String)) : Option (Arg String) :=
  (flag.map Arg.ofText).or arg

/-- A request under the flags. -/
def TestFlags.request (flags : TestFlags) (port : Option (Arg UInt16)) (r : RequestOptions) :
    RequestOptions where
  accept := overridden flags.accept r.accept
  body := overridden flags.body r.body
  contentType := overridden flags.contentType r.contentType
  port := port.or r.port
  method := (flags.endpoints.head?.map (·.1)).or r.method
  url := overridden (flags.endpoints.head?.map (·.2)) r.url
  cookies := r.cookies ++ flags.cookies
  headers := r.headers ++ flags.headers
  params := r.params ++ flags.params
  queryParams := r.queryParams ++ flags.queryParams

/-- How the source is written under the flags. -/
def TestFlags.sourceOptions (flags : TestFlags) (port : Option (Arg UInt16)) (o : SourceOptions) :
    SourceOptions where
  statusCode := flags.statusCode.or o.statusCode
  format := o.format && !flags.compact
  includeDependencies := o.includeDependencies || flags.imports
  request := flags.request port o.request

/-- The port from the flags, if there is one. -/
def TestFlags.readPort (flags : TestFlags) : Except NumeralError (Option (Arg UInt16)) :=
  match flags.port with
  | none => .ok none
  | some text => (portOfText text).map some

/-- All options under all flags. -/
def Flags.testOptions (flags : Flags) (config : Option Options) : Except NumeralError Options := do
  let options := flags.checkOptions config
  let port ← flags.test.readPort
  return { options with source := flags.test.sourceOptions port options.source }

end BodyCheck
