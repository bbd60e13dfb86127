import BodyCheck.Check.Derive

/-!
# Options

What a test is made with: which checks are derived from the document, how the source is written,
and the request whose response is checked.  A text that goes into the source is an `Arg`: either a
literal, or the name of something that is in scope where the source will stand.
-/

namespace BodyCheck

/-- A value for the source. -/
inductive Arg (α : Type) where
  /-- A constant. -/
  | literal (value : α)
  /-- The name of something in scope, written as it is. -/
  | reference (name : String)
deriving DecidableEq, Repr

/-- A key and a value: a header, a cookie or a parameter. -/
abbrev Pair := Arg String × Arg String

/-- The methods of a request. -/
inductive Method where
  | get
  | post
  | put
  | delete
  | head
  | options
  | patch
deriving DecidableEq, Repr

/-- All methods. -/
def Method.all : List Method := [.get, .post, .put, .delete, .head, .options, .patch]

/-- The call that sends a request with a method. -/
def Method.callName : Method → String
  | .get => "get"
  | .post => "post"
  | .put => "put"
  | .delete => "delete"
  | .head => "head"
  | .options => "options"
  | .patch => "patch"

/-- The word for a method in a configuration. -/
def Method.word : Method → String
  | .get => "GET"
  | .post => "POST"
  | .put => "PUT"
  | .delete => "DELETE"
  | .head => "HEAD"
  | .options => "OPTIONS"
  | .patch => "PATCH"

/-- The method with the given word. -/
def Method.ofWord? (word : String) : Option Method := Method.all.find? (·.word == word)

/-- The request whose response is checked. -/
structure RequestOptions where
  accept : Option (Arg String) := none
  body : Option (Arg String) := none
  contentType : Option (Arg String) := none
  port : Option (Arg UInt16) := none
  method : Option Method := none
  url : Option (Arg String) := none
  cookies : List Pair := []
  headers : List Pair := []
  params : List Pair := []
  queryParams : List Pair := []
deriving DecidableEq, Repr, Inhabited

/-- How the source is written. -/
structure SourceOptions where
  /-- The status the response is to have. -/
  statusCode : Option UInt16 := none
  /-- Every clause stands on a line of its own. -/
  format : Bool := true
  /-- The imports stand in front. -/
  includeDependencies : Bool := false
  /-- The request. -/
  request : RequestOptions := {}
deriving DecidableEq, Repr, Inhabited

/-- All options. -/
structure Options where
  /-- Which checks are derived. -/
  checks : CheckOptions := {}
  /-- How the source is written. -/
  source : SourceOptions := {}
deriving DecidableEq, Repr, Inhabited

end BodyCheck
