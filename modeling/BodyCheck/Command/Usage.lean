import BodyCheck.Number.Bounded

/-!
# Refused command lines

Why a command line is not carried out.  Asking for help or for the version is one of the reasons.
-/

namespace BodyCheck

/-- Why the value of an option is refused. -/
inductive ValueError where
  /-- A path is empty. -/
  | empty
  /-- A number cannot be read. -/
  | numeral (e : NumeralError)
  /-- A number does not fit into 16 bits. -/
  | outOfRange (n : Int)
  /-- A pair has no equals sign. -/
  | noPair (text : String)
deriving DecidableEq, Repr

/-- The wording of an error. -/
def ValueError.message : ValueError → String
  | .empty => "a value is required"
  | .numeral e => e.message
  | .outOfRange n => toString n ++ " is not in 0..=65535"
  | .noPair text => "expected KEY=VALUE, got `" ++ text ++ "`"

/-- Why a command line is refused. -/
inductive UsageError where
  /-- There is no such option, or a word stands where none can stand. -/
  | unknownArgument
  /-- Two options exclude each other, or one is given twice. -/
  | conflict
  /-- An option that is needed is not given. -/
  | missingArgument
  /-- An option has no value. -/
  | missingValue
  /-- A flag has a value. -/
  | unexpectedValue
  /-- The value of an option is refused.  The option is given as it is described. -/
  | refusedValue (option value : String) (reason : ValueError)
  | unknownCommand
  | missingCommand
  /-- There is nothing on the command line. -/
  | nothing
  | help
  | version
deriving DecidableEq, Repr

/-- The first line of a text. -/
def firstLine (text : String) : String :=
  let line := text.toList.takeWhile (· != '\n')
  let ended := line.length < text.length && line.getLast? == some '\r'
  String.ofList (if ended then line.dropLast else line)

/-- The wording for a refused value, in one line. -/
def UsageError.refusal (option value : String) (reason : ValueError) : String :=
  firstLine ("error: invalid value '" ++ value ++ "' for '" ++ option ++ "': " ++ reason.message)

/-- How the program is used. -/
def usageText : String :=
  "usage: bodycheck test|assertions (--json TEXT | --input SOURCE...) [OPTIONS]"

/-- The wording of a refusal. -/
def UsageError.message : UsageError → String
  | .unknownArgument => "error: unexpected argument"
  | .conflict => "error: arguments that cannot be used together"
  | .missingArgument => "error: --input or --json is required"
  | .missingValue => "error: a value is required"
  | .unexpectedValue => "error: unexpected value"
  | .refusedValue option value reason => UsageError.refusal option value reason
  | .unknownCommand => "error: unknown command"
  | .missingCommand => "error: a command is required"
  | .nothing | .help => usageText
  | .version => "bodycheck 0.1.0"

end BodyCheck
