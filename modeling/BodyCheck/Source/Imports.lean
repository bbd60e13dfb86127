import BodyCheck.Check

/-!
# Imports

The lines that stand in front of a test, one for each name it uses, in the order of their bytes, and
a line that separates them from the test.
-/

namespace BodyCheck

/-- The names that are imported, in the order of their lines. -/
inductive Import where
  | given
  | contains
  | empty
  | equalTo
  | nullValue
deriving DecidableEq, Repr

namespace Import

/-- All names, in the order of their lines. -/
def all : List Import := [.given, .contains, .empty, .equalTo, .nullValue]

/-- The line of a name. -/
def line : Import → String
  | .given => "import static io.restassured.RestAssured.given;"
  | .contains => "import static org.hamcrest.Matchers.contains;"
  | .empty => "import static org.hamcrest.Matchers.empty;"
  | .equalTo => "import static org.hamcrest.Matchers.equalTo;"
  | .nullValue => "import static org.hamcrest.Matchers.nullValue;"

/-- The name that a check uses. -/
def ofCheck : Check → Import
  | .value _ _ _ => .equalTo
  | .null _ => .nullValue
  | .items _ _ => .contains
  | .empty _ => .empty

/-- The test with these checks uses the name.  Every test starts with `given`. -/
def isUsed (checks : List Check) (i : Import) : Bool :=
  i == .given || checks.any (ofCheck · == i)

/-- The names that a test uses. -/
def used (checks : List Check) : List Import := all.filter (isUsed checks)

/-- The line between the imports and the test. -/
def separator : String := "//----------\n"

/-- The lines in front of a test. -/
def block (checks : List Check) : String :=
  String.join ((used checks).map (·.line ++ "\n")) ++ separator

/-- The names stand in the order of their lines. -/
theorem pairwise_line_all : all.Pairwise (·.line < ·.line) := by decide +kernel

end Import

end BodyCheck
