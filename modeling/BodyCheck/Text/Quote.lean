import BodyCheck.Text.Shown

/-!
# Quoted text

A text as a message quotes it: between double quotes, with quotes and backslashes behind a
backslash, a letter for the usual control characters, and a number in braces for every other
character that shows nothing of its own.
-/

namespace BodyCheck

namespace Text

/-- A number in hexadecimal digits, in lower case. -/
def hexText (n : Nat) : List Char := Nat.toDigits 16 n

/-- A character as it is quoted. -/
def quoteChar (ch : Char) : List Char :=
  match ch with
  | '"' => ['\\', '"']
  | '\\' => ['\\', '\\']
  | '\x00' => ['\\', '0']
  | '\n' => ['\\', 'n']
  | '\r' => ['\\', 'r']
  | '\t' => ['\\', 't']
  | _ => if isShown ch then [ch] else '\\' :: 'u' :: '{' :: (hexText ch.toNat ++ ['}'])

/-- A text as it is quoted. -/
def quote (s : String) : String :=
  String.ofList ('"' :: s.toList.flatMap quoteChar ++ ['"'])

example : quote "é\"\x01" = "\"é\\\"\\u\x7b1\x7d\"" := by decide +kernel

end Text

end BodyCheck
