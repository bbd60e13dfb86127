import BodyCheck.Command.Run
import Std.Time.Zoned.Database

/-!
# The program

Reads a command line, looks at the files it names and at the clock, runs the command on what it saw,
and puts out what the run left behind.
-/

namespace BodyCheck

/-! ## Looking at files -/

/-- What stands at a location.  Contents are read later. -/
def look (place : Location) : IO (Option Entry) := do
  let path := (← IO.currentDir) / ("/" ++ "/".intercalate place)
  if ← path.isDir then return some .directory
  if ← path.pathExists then return some (.file (.text ""))
  return none

/-- A tree of files that does not give out what stands at a location. -/
def FileTree.sealing (t : FileTree) (place : Location) : FileTree :=
  { t with sealed := place :: t.sealed }

/-- A tree of files that also holds what stands at a location. -/
def FileTree.noting (t : FileTree) (place : Location) : IO FileTree := do
  if (t.entry? place).isSome then return t
  match ← look place with
  | some .directory => return { t with directories := place :: t.directories }
  | some (.file content) => return { t with files := (place, content) :: t.files }
  | none => return t

/-- A tree of files that also holds what stands on the way along names. -/
def FileTree.notingNames (t : FileTree) (place : Location) : List String → IO FileTree
  | [] => t.noting place
  | name :: rest => do
    let t ← t.noting place
    match t.enter place name with
    | .ok next => t.notingNames next rest
    | .error _ => return t

/-- A tree of files that also holds what stands on the way along a path. -/
def FileTree.notingPath (t : FileTree) (path : String) : IO FileTree :=
  let (place, names) := t.start path
  t.notingNames place names

/-- A tree of files that also holds what stands below a location, as deep as given. -/
def FileTree.notingBelow (t : FileTree) (place : Location) : (depth : Nat) → IO FileTree
  | 0 => return t
  | depth + 1 => do
    let t ← t.noting place
    if t.entry? place != some .directory then return t
    let path := (← IO.currentDir) / ("/" ++ "/".intercalate place)
    match ← EIO.toBaseIO path.readDir with
    | .ok entries => entries.foldlM (fun t e => t.notingBelow (place ++ [e.fileName]) depth) t
    | .error _ => return t.sealing place

/-- A tree of files that also holds what an input may stand for. -/
def FileTree.notingInput (t : FileTree) (input : String) : IO FileTree := do
  if !input.toList.any isPatternChar then t.notingPath input
  else
    let (place, names) := t.start input
    let fixed := names.takeWhile fun name => !name.toList.any isPatternChar
    let t ← t.notingNames place fixed
    match fixed.foldlM t.enter place with
    | .error _ => return t
    | .ok place =>
      let depth := if names.contains "**" then greatestPath else names.length + 1
      t.notingBelow place depth

/-- A tree of files with the content of the file that a path leads to. -/
def FileTree.reading (t : FileTree) (path : String) : IO FileTree := do
  match t.locate path, t.at? path with
  | .ok place, .ok (.file _) =>
    let file := (← IO.currentDir) / ("/" ++ "/".intercalate place)
    match ← EIO.toBaseIO (IO.FS.readBinFile file) with
    | .ok bytes => return { t with files := putFile place (Content.ofBytes bytes) t.files }
    | .error _ => return t.sealing place
  | _, _ => return t

/-- The files that a command names, as they are. -/
def Invocation.survey (c : Invocation) : IO FileTree := do
  let here := ((← IO.currentDir).toString.splitOn "/").filter (· != "")
  let t : FileTree := { files := [], directories := [], workingDirectory := here }
  let named := c.flags.config.toList ++ c.flags.out.toList
  let t ← named.foldlM FileTree.notingPath t
  let t ← c.flags.input.sources.foldlM FileTree.notingInput t
  let sources := (resolveSources t c.flags.input.sources).toOption.getD []
  let paths := sources.filterMap fun
    | .file path => some path
    | .standardInput => none
  (c.flags.config.toList ++ paths).foldlM FileTree.reading t

/-- What stands on the standard input, if a command reads it. -/
def Invocation.input (c : Invocation) : IO Content := do
  if c.flags.input.sources.contains "-" then
    return Content.ofBytes (← (← IO.getStdin).readBinToEnd)
  else return .text ""

/-! ## Looking around -/

/-- The name and the text of an entry of an environment, between which the first equals sign behind
the start stands. -/
def environmentEntry? : List Char → Option (String × String)
  | [] => none
  | ch :: rest =>
    match rest.dropWhile (· != '=') with
    | [] => none
    | _ :: text => some (String.ofList (ch :: rest.takeWhile (· != '=')), String.ofList text)

/-- The environment of this program.  It is taken to be empty if it is not given out or no text. -/
def readEnvironment : IO (List (String × String)) := do
  let bytes ← EIO.toBaseIO (IO.FS.readBinFile "/proc/self/environ")
  match bytes.map Content.ofBytes with
  | .ok (.text s) => return (s.splitOn "\x00").filterMap fun e => environmentEntry? e.toList
  | _ => return []

/-- How far the clocks of this machine are ahead.  They are taken for those at the meridian if their
zone is not known. -/
def readZone : IO (Int → Int) := do
  match ← EIO.toBaseIO Std.Time.Database.defaultGetLocalZoneRules with
  | .ok rules => return fun seconds =>
    (rules.findLocalTimeTypeForTimestamp (.ofSecondsSinceUnixEpoch ⟨seconds⟩)).gmtOffset.second.val
  | .error _ => return fun _ => 0

/-- What lies around a filter on this machine. -/
def Filter.Surroundings.read : IO Filter.Surroundings := do
  let nanoseconds := (← Std.Time.Timestamp.now).toNanosecondsSinceUnixEpoch.val
  return {
    now := ⟨nanoseconds.fdiv 1000000000, (nanoseconds.fmod 1000000000).toNat⟩
    environment := ← readEnvironment
    ahead := ← readZone }

/-- What lies around the filter of a command.  Without a filter nothing is looked at. -/
def Invocation.surroundings (c : Invocation) : IO Filter.Surroundings :=
  if c.flags.input.selection.filter.isSome then Filter.Surroundings.read
  else return { now := { seconds := 0 } }

/-! ## Putting out -/

/-- Puts out what a run left behind. -/
def Outcome.put (o : Outcome) (out : Option String) : IO Unit := do
  IO.print o.output
  match out with
  | none => return
  | some path =>
    match parentPath? path, o.files.read path with
    | some parent, .ok text =>
      unless parent = "" do IO.FS.createDirAll parent
      IO.FS.writeFile path text
    | _, _ => return

/-- Runs a command on this machine. -/
def Invocation.perform (c : Invocation) : IO UInt32 := do
  match c.run (← c.survey) (← c.input) (← c.surroundings) with
  | .ok outcome =>
    outcome.put c.flags.out
    return 0
  | .error e =>
    IO.eprintln ("error: " ++ e.message)
    return 1

/-- Says why a command line is refused. -/
def UsageError.explain (e : UsageError) : IO UInt32 := do
  match e with
  | .help | .version =>
    IO.println e.message
    return 0
  | _ =>
    IO.eprintln e.message
    return 2

end BodyCheck

/-- The program. -/
def main (arguments : List String) : IO UInt32 :=
  match BodyCheck.Invocation.ofArguments arguments with
  | .ok c => c.perform
  | .error e => e.explain
