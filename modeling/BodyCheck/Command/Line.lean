import BodyCheck.Command.Flags
import BodyCheck.Command.Usage

/-!
# Command lines

A command line is a command, its options and their values.  It is read from left to right.  The
values of an option are taken in when the next option begins or the line ends, or at once if they
are attached to it; only then can they be refused.  A word that is no option and that no option
waits for is refused at once.
-/

namespace BodyCheck

/-! ## Options -/

/-- What an option takes, and what it says. -/
inductive Intake where
  /-- No value, once. -/
  | switch (set : Flags → Flags)
  /-- No value; the line is refused. -/
  | refuse (e : UsageError)
  /-- One value, once. -/
  | one (set : String → Flags → Except ValueError Flags)
  /-- One value, any number of times. -/
  | each (set : String → Flags → Except ValueError Flags)
  /-- One value or more, any number of times. -/
  | several (set : List String → Flags → Flags)

/-- An option of a command line. -/
structure Flag where
  word : String
  /-- Its short form. -/
  letter : Option Char := none
  /-- What a value of it is called. -/
  valueName : String := ""
  intake : Intake

namespace Flag

/-- The option takes values. -/
def takesValue (f : Flag) : Bool :=
  match f.intake with
  | .switch _ | .refuse _ => false
  | _ => true

/-- The option takes another value behind so many. -/
def takesMore (f : Flag) (given : Nat) : Bool :=
  match f.intake with
  | .several _ => true
  | _ => given == 0

/-- How the option is described. -/
def description (f : Flag) : String := "--" ++ f.word ++ " <" ++ f.valueName ++ ">"

/-- The refusal of a value. -/
def refusal (f : Flag) (value : String) : ValueError → UsageError
  | .empty => .missingValue
  | reason => .refusedValue f.description value reason

end Flag

/-! ## The table of options -/

/-- An option that sets something to its value. -/
def valueFlag (word : String) (set : String → Flags → Flags) : Flag :=
  { word, intake := .one fun value flags => .ok (set value flags) }

/-- An option with a path. -/
def pathFlag (word : String) (letter : Option Char) (set : String → Flags → Flags) : Flag :=
  { word, letter
    intake := .one fun value flags => if value = "" then .error .empty else .ok (set value flags) }

/-- An option that changes how the test is written. -/
def testFlag (word : String) (set : String → TestFlags → TestFlags) : Flag :=
  valueFlag word fun value flags => { flags with test := set value flags.test }

/-- An option that adds a pair. -/
def pairFlag (word : String) (add : Pair → TestFlags → TestFlags) : Flag :=
  { word, valueName := "KEY=VALUE"
    intake := .each fun value flags =>
      match Pair.ofText? value with
      | some p => .ok { flags with test := add p flags.test }
      | none => .error (.noPair value) }

/-- A switch. -/
def switchFlag (word : String) (set : Flags → Flags) : Flag := { word, intake := .switch set }

/-- A number that fits into 16 bits. -/
def statusOfText (value : String) : Except ValueError UInt16 := do
  let n ← (readInt64 value.toList).mapError .numeral
  if 0 ≤ n ∧ n < Nat.pow 2 16 then return UInt16.ofNat n.toNat else throw (.outOfRange n)

/-- The options of every command. -/
def commonFlags : List Flag :=
  [valueFlag "log-level" fun _ flags => flags,
    { word := "help", letter := some 'h', intake := .refuse .help }]

/-- The options in front of a command. -/
def leadingFlags : List Flag :=
  { word := "version", letter := some 'V', intake := .refuse .version } :: commonFlags

/-- The options of commands on documents. -/
def documentFlags : List Flag :=
  [valueFlag "json" fun value flags =>
      { flags with input := { flags.input with inlineText := some value } },
    { word := "input", letter := some 'i'
      intake := .several fun values flags =>
        { flags with input := { flags.input with sources := flags.input.sources ++ values } } },
    valueFlag "json-pointer" fun value flags =>
      { flags with
        input :=
          { flags.input with selection := { flags.input.selection with pointer := some value } } },
    valueFlag "jq-expr" fun value flags =>
      { flags with
        input :=
          { flags.input with selection := { flags.input.selection with filter := some value } } },
    pathFlag "config" none fun value flags => { flags with config := some value },
    switchFlag "no-simplify" fun flags => { flags with noSimplify := true },
    switchFlag "check-empty" fun flags => { flags with checkEmpty := true },
    pathFlag "out" (some 'o') fun value flags => { flags with out := some value }]

/-- The options that name the method and the address of a request. -/
def endpointFlags : List Flag :=
  Method.all.map fun m =>
    testFlag m.callName fun value flags =>
      { flags with endpoints := flags.endpoints ++ [(m, value)] }

/-- The options that say how a test is written. -/
def testFlags : List Flag :=
  endpointFlags ++
  [testFlag "accept" fun value flags => { flags with accept := some value },
    testFlag "content-type" fun value flags => { flags with contentType := some value },
    testFlag "body" fun value flags => { flags with body := some value },
    testFlag "port" fun value flags => { flags with port := some value },
    pairFlag "header" fun p flags => { flags with headers := flags.headers ++ [p] },
    pairFlag "cookie" fun p flags => { flags with cookies := flags.cookies ++ [p] },
    pairFlag "param" fun p flags => { flags with params := flags.params ++ [p] },
    pairFlag "query-param" fun p flags => { flags with queryParams := flags.queryParams ++ [p] },
    { word := "status-code", valueName := "STATUS_CODE"
      intake := .one fun value flags => do
        let code ← statusOfText value
        return { flags with test := { flags.test with statusCode := some code } } },
    switchFlag "compact" fun flags => { flags with test := { flags.test with compact := true } },
    switchFlag "imports" fun flags => { flags with test := { flags.test with imports := true } }]

/-- What is done with the documents. -/
inductive Verb where
  /-- A test is written. -/
  | test
  /-- The checks are listed. -/
  | assertions
deriving DecidableEq, Repr

/-- The options of a command. -/
def Verb.flags : Verb → List Flag
  | .test => commonFlags ++ documentFlags ++ testFlags
  | .assertions => commonFlags ++ documentFlags

/-! ## Taking in options -/

/-- How far a command line has been read. -/
structure Progress where
  flags : Flags := {}
  /-- The options that have been taken in. -/
  seen : List String := []
  /-- An option that has not been taken in, with its values so far. -/
  pending : Option (Flag × List String) := none

namespace Progress

/-- What has been read, with the flags that an option leads to. -/
def accept (p : Progress) (f : Flag) (value : String) (flags : Except ValueError Flags) :
    Except UsageError Progress :=
  match flags with
  | .ok flags => .ok { p with flags, seen := f.word :: p.seen }
  | .error reason => .error (f.refusal value reason)

/-- Takes in an option with its values. -/
def takeIn (p : Progress) (f : Flag) (values : List String) : Except UsageError Progress :=
  match f.intake, values with
  | .refuse e, _ => .error e
  | .switch set, _ =>
    if p.seen.contains f.word then .error .conflict else p.accept f "" (.ok (set p.flags))
  | .one set, value :: _ =>
    if p.seen.contains f.word then .error .conflict else p.accept f value (set value p.flags)
  | .each set, value :: _ => p.accept f value (set value p.flags)
  | .several set, value :: rest => p.accept f value (.ok (set (value :: rest) p.flags))
  | _, [] => .error .missingValue

/-- Takes in the option that has not been taken in. -/
def settle (p : Progress) : Except UsageError Progress :=
  match p.pending with
  | none => .ok p
  | some (f, values) => { p with pending := none }.takeIn f values

/-- An option waits for another value. -/
def isWaiting (p : Progress) : Bool :=
  match p.pending with
  | none => false
  | some (f, values) => f.takesMore values.length

/-- Gives a value to the option that waits for it. -/
def push (p : Progress) (value : String) : Progress :=
  { p with pending := p.pending.map fun (f, values) => (f, values ++ [value]) }

/-- Begins an option, with a value if one is attached. -/
def start (p : Progress) (f : Flag) (attached : Option String) : Except UsageError Progress := do
  let p ← p.settle
  match attached with
  | some value => p.takeIn f [value]
  | none => if f.takesValue then return { p with pending := some (f, []) } else p.takeIn f []

/-- Begins an option by its word. -/
def long (table : List Flag) (p : Progress) (word : String) (attached : Option String) :
    Except UsageError Progress :=
  match table.find? (·.word == word) with
  | none => .error .unknownArgument
  | some f =>
    if !f.takesValue && attached.isSome then .error .unexpectedValue else p.start f attached

/-- The value that is attached to a letter. -/
def attachedValue : List Char → Option String
  | [] => none
  | '=' :: value | value => some (String.ofList value)

/-- Begins options by their letters.  The first one that takes a value takes what is left. -/
def short (table : List Flag) (p : Progress) : List Char → Except UsageError Progress
  | [] => .ok p
  | letter :: rest =>
    match table.find? (·.letter == some letter) with
    | none => .error .unknownArgument
    | some f =>
      if f.takesValue then p.start f (attachedValue rest)
      else do short table (← p.start f none) rest

end Progress

/-! ## Reading -/

/-- What an argument looks like. -/
inductive Shape where
  /-- Two hyphens: only words can follow. -/
  | separator
  | long (word : String) (attached : Option String)
  | short (letters : List Char)
  /-- A word that is no option. -/
  | plain
deriving DecidableEq, Repr

/-- What an argument looks like.  A single hyphen is a word. -/
def Shape.of (argument : String) : Shape :=
  match argument.toList with
  | ['-', '-'] => .separator
  | '-' :: '-' :: text =>
    match splitEquals text with
    | some (name, value) => .long (String.ofList name) (some (String.ofList value))
    | none => .long (String.ofList text) none
  | '-' :: c :: letters => .short (c :: letters)
  | _ => .plain

/-- Reads the options of a command. -/
def readFlags (table : List Flag) : Progress → List String → Except UsageError Progress
  | p, [] => p.settle
  | p, argument :: rest =>
    match Shape.of argument with
    | .separator => if rest.isEmpty then p.settle else .error .unknownArgument
    | .long word attached => do readFlags table (← p.long table word attached) rest
    | .short letters => do readFlags table (← p.short table letters) rest
    | .plain =>
      if p.isWaiting then readFlags table (p.push argument) rest else .error .unknownArgument

/-- No options exclude each other, and there are documents. -/
def Flags.validate (flags : Flags) : Except UsageError Unit :=
  let isInline := flags.input.inlineText.isSome
  if isInline && !flags.input.sources.isEmpty || flags.test.endpoints.length > 1 then
    .error .conflict
  else if !isInline && flags.input.sources.isEmpty then .error .missingArgument
  else .ok ()

/-- A command with its flags. -/
structure Invocation where
  verb : Verb
  flags : Flags
deriving DecidableEq, Repr

/-- What the first word of a command line stands for. -/
inductive Leading where
  | verb (v : Verb)
  | help
deriving DecidableEq, Repr

/-- What a word stands for. -/
def Leading.ofWord? : String → Option Leading
  | "test" => some (.verb .test)
  | "assertions" => some (.verb .assertions)
  | "help" => some .help
  | _ => none

/-- Help on a command. -/
def helpOn : List String → UsageError
  | [] => .help
  | [word] => if (Leading.ofWord? word).isSome then .help else .unknownCommand
  | _ => .unknownCommand

/-- Reads a command and its options. -/
def Verb.read (verb : Verb) (arguments : List String) : Except UsageError Invocation := do
  let p ← readFlags verb.flags {} arguments
  p.flags.validate
  return ⟨verb, p.flags⟩

/-- The end of a command line without a command. -/
def Progress.finish (p : Progress) : Except UsageError Invocation := do
  let p ← p.settle
  throw (if p.seen.isEmpty then .nothing else .missingCommand)

/-- Reads a command line, from the options in front of the command on. -/
def readLine : Progress → List String → Except UsageError Invocation
  | p, [] => p.finish
  | p, argument :: rest =>
    match if p.isWaiting then none else Leading.ofWord? argument with
    | some (.verb verb) => do
      let _ ← p.settle
      verb.read rest
    | some .help => .error (helpOn rest)
    | none =>
      match Shape.of argument with
      | .separator =>
        match rest with
        | [] => p.finish
        | word :: _ =>
          .error (if (Leading.ofWord? word).isSome then .unknownArgument else .unknownCommand)
      | .long word attached => do readLine (← p.long leadingFlags word attached) rest
      | .short letters => do readLine (← p.short leadingFlags letters) rest
      | .plain => if p.isWaiting then readLine (p.push argument) rest else .error .unknownCommand

/-- Reads a command line. -/
def Invocation.ofArguments (arguments : List String) : Except UsageError Invocation :=
  readLine {} arguments

end BodyCheck
