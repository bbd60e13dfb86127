import BodyCheck.Json.Basic
import BodyCheck.Number.Digits

/-!
# Pointers into documents

A pointer is empty and names the whole document, or it is a sequence of tokens with a slash before
each.  A token is the key of a member or the index of an element.  In a token `~1` stands for a
slash and `~0` for a tilde; any other tilde stands for itself.
-/

namespace BodyCheck

namespace Json

/-- The tokens behind the first slash, as they are written. -/
def pointerTokens : List Char → List (List Char)
  | [] => [[]]
  | '/' :: rest => [] :: pointerTokens rest
  | ch :: rest =>
    match pointerTokens rest with
    | token :: tokens => (ch :: token) :: tokens
    | [] => [[ch]]

/-- What a token stands for. -/
def unescapeToken : List Char → List Char
  | '~' :: '1' :: rest => '/' :: unescapeToken rest
  | '~' :: '0' :: rest => '~' :: unescapeToken rest
  | ch :: rest => ch :: unescapeToken rest
  | [] => []

/-- The index that a token stands for: decimal digits without a leading zero. -/
def tokenIndex? (token : List Char) : Option Nat :=
  if isDigits token && (token.length == 1 || token.head? != some '0') then some (digitsValue token)
  else none

/-- The part of a value that a token names. -/
def child? (token : List Char) : Json → Option Json
  | .object entries => entries.lookup (String.ofList token)
  | .array items => (tokenIndex? token).bind (items[·]?)
  | _ => none

/-- The part of a value that tokens lead to. -/
def descend? : List (List Char) → Json → Option Json
  | [], v => some v
  | token :: tokens, v => (v.child? (unescapeToken token)).bind (descend? tokens)

/-- The part of a document that a pointer names. -/
def pointer? (pointer : String) (v : Json) : Option Json :=
  match pointer.toList with
  | [] => some v
  | '/' :: rest => descend? (pointerTokens rest) v
  | _ => none

example : (Json.object [("x/y", .array [.null, .bool true])]).pointer? "/x~1y/1"
    = some (.bool true) := by decide

end Json

end BodyCheck
