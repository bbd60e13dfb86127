import BodyCheck.Config.Arg
import BodyCheck.Config.Record

/-!
# Reading configurations

The readers of all options.  `Config.read` reads one value from the front of a text; what follows
the value is not looked at.  Containers may be nested as deep as in any document, except in what is
skipped.
-/

namespace BodyCheck

namespace Config

/-! ## Single values -/

/-- Reads true or false. -/
def readBoolean : Reader Bool := fun c => do
  let c := c.skipBlanks
  match c.rest with
  | 't' :: rest =>
    return (true, ← json (Cursor.letters ['r', 'u', 'e'] ⟨rest, c.offset + 1⟩))
  | 'f' :: rest =>
    return (false, ← json (Cursor.letters ['a', 'l', 's', 'e'] ⟨rest, c.offset + 1⟩))
  | _ => wrongType .boolean c

/-- The whole number below `2 ^ 16` that a number is. -/
def word16Of (n : Number) (c : Cursor) : Except Fault (UInt16 × Cursor) :=
  match n with
  | .integer i =>
    if 0 ≤ i ∧ i < Nat.pow 2 16 then .ok (UInt16.ofNat i.toNat, c)
    else failHere c (.wrongValue i .word16)
  | .double _ => failHere c (.wrongType (.number n) .word16)

/-- Reads a whole number below `2 ^ 16`. -/
def readWord16 : Reader UInt16 := fun c => do
  let c := c.skipBlanks
  match c.rest with
  | '-' :: rest =>
    let (n, c) ← json (Json.numberPart true ⟨rest, c.offset + 1⟩)
    word16Of n c
  | ch :: _ =>
    if ch.isDigit then
      let (n, c) ← json (Json.numberPart false c)
      word16Of n c
    else wrongType .word16 c
  | [] => wrongType .word16 c

/-- Reads null as nothing, and anything else with a reader. -/
def readOptional {α : Type} (read : Reader α) : Reader (Option α) := fun c => do
  let c := c.skipBlanks
  match c.rest with
  | 'n' :: rest => return (none, ← json (Cursor.letters ['u', 'l', 'l'] ⟨rest, c.offset + 1⟩))
  | _ =>
    let (a, c) ← read c
    return (some a, c)

/-- Reads a whole value, then what it stands for. -/
def readMatching {α : Type} (depth : Nat) (error : Error) (of? : Json → Option α) : Reader α :=
  fun c => do
    let (v, c) ← json (Json.value depth c)
    match of? v with
    | some a => return (a, c)
    | none => failPending c error

/-- Reads a text argument. -/
def readText (depth : Nat) : Reader (Arg String) := readMatching depth .noArg Arg.text?

/-- Reads a port argument. -/
def readPort (depth : Nat) : Reader (Arg UInt16) := readMatching depth .noArg Arg.port?

/-- Reads pairs. -/
def readPairs (depth : Nat) : Reader (List Pair) := readMatching depth .noPairs pairsOf?

/-! ## Methods -/

/-- Reads the word of a method. -/
def readMethodWord : Reader Method := fun c => do
  let c := c.skipBlanks
  match c.rest with
  | '"' :: rest =>
    let (word, c) ← json (Json.stringPart ⟨rest, c.offset + 1⟩)
    match Method.ofWord? word with
    | some m => return (m, c)
    | none => failHere c (.unknownMethod word)
  | _ => wrongType .variantName c

/-- Reads the null that stands for the contents of a method. -/
def readUnit : Reader Unit := fun c => do
  let c := c.skipBlanks
  match c.rest with
  | 'n' :: rest => return ((), ← json (Cursor.letters ['u', 'l', 'l'] ⟨rest, c.offset + 1⟩))
  | _ => wrongType .unit c

/-- Reads a method: its word, or an object with its word as the only key and null as the value. -/
def readMethod (depth : Nat) : Reader Method := fun c => do
  let c := c.skipBlanks
  match c.rest with
  | [] => json (c.here .unfinishedValue)
  | '"' :: _ => readMethodWord c
  | '{' :: rest =>
    if depth = 0 then json (c.beyond .nestedTooDeep)
    else
      let (m, c) ← readMethodWord ⟨rest, c.offset + 1⟩
      let c ← json (Json.colon c)
      let ((), c) ← under (.key m.word) (readUnit c)
      let c := c.skipBlanks
      match c.rest with
      | [] => json (c.here .unfinishedObject)
      | '}' :: rest => return (m, ⟨rest, c.offset + 1⟩)
      | _ :: _ => json (c.here .missingValue)
  | _ :: _ => json (c.beyond .missingValue)

/-! ## Records -/

/-- A field whose value is put into the record by the given function. -/
def field {σ α : Type} (name : String) (read : Nat → Reader α) (set : σ → α → σ) : Entry σ where
  name := name
  read depth record c := do
    let (a, c) ← read depth c
    return (set record a, c)

/-- The fields of the options on checks. -/
def checkEntries : List (Entry CheckOptions) :=
  [field "simplifyArrays" (fun _ => readBoolean) fun o b => { o with simplifyArrays := b },
    field "checkEmptyContainers" (fun _ => readBoolean)
      fun o b => { o with checkEmptyContainers := b }]

/-- Reads the options on checks. -/
def readChecks : Nat → Reader CheckOptions := readRecord "TransformerOptions" checkEntries {}

/-- Reads an optional text argument. -/
def readOptionalText (depth : Nat) : Reader (Option (Arg String)) := readOptional (readText depth)

/-- The fields of a request. -/
def requestEntries : List (Entry RequestOptions) :=
  [field "accept" readOptionalText fun o a => { o with accept := a },
    field "body" readOptionalText fun o a => { o with body := a },
    field "contentType" readOptionalText fun o a => { o with contentType := a },
    field "port" (fun depth => readOptional (readPort depth)) fun o a => { o with port := a },
    field "method" (fun depth => readOptional (readMethod depth)) fun o a => { o with method := a },
    field "url" readOptionalText fun o a => { o with url := a },
    field "cookies" readPairs fun o a => { o with cookies := a },
    field "headers" readPairs fun o a => { o with headers := a },
    field "params" readPairs fun o a => { o with params := a },
    field "queryParams" readPairs fun o a => { o with queryParams := a }]

/-- Reads a request. -/
def readRequest : Nat → Reader RequestOptions :=
  readRecord "RequestSpecification" requestEntries {}

/-- The fields of the options on the source. -/
def sourceEntries : List (Entry SourceOptions) :=
  [field "statusCode" (fun _ => readOptional readWord16) fun o n => { o with statusCode := n },
    field "format" (fun _ => readBoolean) fun o b => { o with format := b },
    field "includeDependencies" (fun _ => readBoolean)
      fun o b => { o with includeDependencies := b },
    field "request" readRequest fun o r => { o with request := r }]

/-- Reads the options on the source. -/
def readSource : Nat → Reader SourceOptions := readRecord "GeneratorOptions" sourceEntries {}

/-- The fields of all options. -/
def optionEntries : List (Entry Options) :=
  [{ field "transformer" readChecks fun o c => { o with checks := c } with
      otherName := some "transformerOptions" },
    { field "generator" readSource fun o s => { o with source := s } with
      otherName := some "generatorOptions" }]

/-- Reads all options. -/
def readOptions : Nat → Reader Options := readRecord "CompilerOptions" optionEntries {}

/-! ## Texts -/

/-- Reads a value from the front of a text. -/
def read {α : Type} (reader : Nat → Reader α) (text : List Char) : Except Fault α :=
  (reader Json.greatestDepth (.start text)).map Prod.fst

/-- Reads all options from a text. -/
def parse (text : String) : Except Fault Options := read readOptions text.toList

end Config

end BodyCheck
