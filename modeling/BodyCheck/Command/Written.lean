import BodyCheck.Number.Bounded
import BodyCheck.Options

/-!
# Values on the command line

A value for the source is written as the name of a reference behind a dollar sign, or as the literal
itself; a dollar sign alone is a literal.  A pair is a key and a value with an equals sign between
them, the first one in the text.  A port that is no reference is a numeral.
-/

namespace BodyCheck

/-! ## Arguments -/

/-- The argument that a text stands for. -/
def Arg.ofChars : List Char → Arg String
  | '$' :: c :: name => .reference (String.ofList (c :: name))
  | text => .literal (String.ofList text)

/-- The argument that a text stands for. -/
def Arg.ofText (text : String) : Arg String := Arg.ofChars text.toList

/-- How an argument is written. -/
def Arg.written : Arg String → String
  | .literal text => text
  | .reference name => "$" ++ name

/-! ## Pairs -/

/-- What stands before and behind the first equals sign. -/
def splitEquals : List Char → Option (List Char × List Char)
  | [] => none
  | '=' :: rest => some ([], rest)
  | c :: rest => (splitEquals rest).map fun (key, value) => (c :: key, value)

/-- The pair that a text stands for. -/
def Pair.ofText? (text : String) : Option Pair :=
  (splitEquals text.toList).map fun (key, value) => (Arg.ofChars key, Arg.ofChars value)

/-- How a pair is written. -/
def Pair.written (p : Pair) : String := p.1.written ++ "=" ++ p.2.written

/-! ## Ports -/

/-- The port that a text stands for. -/
def portOfText (text : String) : Except NumeralError (Arg UInt16) :=
  match Arg.ofText text with
  | .reference name => .ok (.reference name)
  | .literal text => (readWord16 text.toList).map fun n => .literal (UInt16.ofNat n)

example : Arg.ofText "$" = .literal "$" := by decide
example : Pair.ofText? "a=$b=c" = some (.literal "a", .reference "b=c") := by decide

end BodyCheck
