import BodyCheck.Source.Imports
import BodyCheck.Source.Request

/-!
# Tests as source

A test is one chain of calls: the request, `.then()`, a clause for every check, and the status.  All
clauses stand on one line, or each one on a line of its own.
-/

namespace BodyCheck

/-- Literals of items, up to the first one that has none. -/
def itemLiterals : List Item → Except LiteralError (List String)
  | [] => .ok []
  | item :: rest => do
    let text ← itemLiteral item.kind item.value
    let texts ← itemLiterals rest
    return text :: texts

/-- What a check demands, as an argument. -/
def Check.matcher : Check → Except LiteralError String
  | .value _ v kind => do return "equalTo(" ++ (← literal kind v) ++ ")"
  | .null _ => .ok "nullValue()"
  | .items _ list => do return "contains(" ++ ", ".intercalate (← itemLiterals list) ++ ")"
  | .empty _ => .ok "empty()"

/-- The clause of a check. -/
def Check.clause (check : Check) : Except LiteralError String := do
  return call "body" (quotedAsIs check.path ++ ", " ++ (← check.matcher))

/-- The clauses of checks, up to the first one that has none. -/
def checkClauses : List Check → Except LiteralError (List String)
  | [] => .ok []
  | check :: rest => do
    let clause ← check.clause
    let clauses ← checkClauses rest
    return clause :: clauses

/-- The clause of a status, if there is one. -/
def statusClause : Option UInt16 → List String
  | none => []
  | some status => [call "statusCode" (decimalText status.toNat)]

/-- All clauses of a test. -/
def clauses (options : SourceOptions) (checks : List Check) :
    Except LiteralError (List String) := do
  let middle ← checkClauses checks
  return options.request.clauses ++ ".then()" :: middle ++ statusClause options.statusCode

/-- What stands in front of every clause. -/
def clauseSeparator (format : Bool) : String := if format then "\n    " else ""

/-- The chain of the clauses. -/
def chain (format : Bool) (clauses : List String) : String :=
  "given()" ++ String.join (clauses.map (clauseSeparator format ++ ·)) ++ ";"

/-- A test as source. -/
def testSource (options : SourceOptions) (checks : List Check) : Except LiteralError String := do
  let clauses ← clauses options checks
  return (if options.includeDependencies then Import.block checks else "")
    ++ chain options.format clauses

example : (testSource { format := false, statusCode := some 200 } [.null "a"]).toOption
    = some "given().when().then().body(\"a\", nullValue()).statusCode(200);" := by decide

end BodyCheck
