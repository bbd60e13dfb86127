import BodyCheck.Options
import BodyCheck.Source.Literal

/-!
# The request in the source

The clauses that build a request: what it sends, then `.when()`, then how it is sent.  A part that
is an empty literal counts as unset, and so does the literal port zero.  Pairs are never unset.
-/

namespace BodyCheck

/-- A text for the source: a literal between quotes, or a name. -/
def Arg.quoted : Arg String → String
  | .literal text => quotedAsIs text
  | .reference name => name

/-- A port for the source. -/
def Arg.portText : Arg UInt16 → String
  | .literal port => decimalText port.toNat
  | .reference name => name

/-- A text that is set: an empty literal is not. -/
def givenText (arg : Option (Arg String)) : Option (Arg String) :=
  arg.filter (· ≠ .literal "")

/-- A port that is set: the literal zero is not. -/
def givenPort (port : Option (Arg UInt16)) : Option (Arg UInt16) :=
  port.filter (· ≠ .literal 0)

/-- A call with one argument. -/
def call (name argument : String) : String := "." ++ name ++ "(" ++ argument ++ ")"

/-- The clause of a text, if that is set. -/
def textClause (name : String) (arg : Option (Arg String)) : List String :=
  match givenText arg with
  | none => []
  | some arg => [call name arg.quoted]

/-- The clause of a pair. -/
def pairClause (name : String) (pair : Pair) : String :=
  call name (pair.1.quoted ++ ", " ++ pair.2.quoted)

/-- The clause that names the method and the address, if both are set. -/
def endpointClause (request : RequestOptions) : List String :=
  match request.method, givenText request.url with
  | some method, some url => [call method.callName url.quoted]
  | _, _ => []

/-- The clause of the port, if that is set. -/
def portClause (port : Option (Arg UInt16)) : List String :=
  match givenPort port with
  | none => []
  | some port => [call "port" port.portText]

/-- The clauses of a request. -/
def RequestOptions.clauses (request : RequestOptions) : List String :=
  textClause "accept" request.accept
    ++ textClause "body" request.body
    ++ textClause "contentType" request.contentType
    ++ request.cookies.map (pairClause "cookie")
    ++ request.headers.map (pairClause "header")
    ++ request.params.map (pairClause "param")
    ++ request.queryParams.map (pairClause "queryParam")
    ++ [".when()"]
    ++ endpointClause request
    ++ portClause request.port

example : RequestOptions.clauses
    { accept := some (.literal ""), method := some .get, url := some (.reference "address"),
      port := some (.literal 0), headers := [(.literal "a", .reference "b")] }
    = [".header(\"a\", b)", ".when()", ".get(address)"] := by decide

end BodyCheck
