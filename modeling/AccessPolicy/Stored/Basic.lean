import AccessPolicy.Decision
import AccessPolicy.Json.Decode
import AccessPolicy.Operation
import AccessPolicy.PolicyBits.Text

/-!
# AccessPolicy.Stored.Basic

The stored form of policy bits and of the vocabulary of accesses: texts.
-/

namespace AccessPolicy

open Json

/-! ## Policy bits -/

/-- The stored form of policy bits is their text. -/
def PolicyBits.toValue (b : PolicyBits) : Value := .string b.text

/-- Read policy bits from their text. -/
def PolicyBits.ofDoc : Reader PolicyBits
  | .string (some s) =>
      match PolicyBits.parse s with
      | .ok b => .ok b
      | .error e => .error (.data (.custom e.message))
  | d => .error (mismatch "a string value of `|` separated flags" d)

/-! ## Alternatives -/

/-- The operations by the names under which they are stored. -/
def Operation.variants : List (String × Operation) := all.map fun op => (op.fullName, op)

/-- The reasons by the names under which they are stored. -/
def Reason.variants : List (String × Reason) := all.map fun reason => (reason.name, reason)

/-- The actions by the names under which they are stored. -/
def Action.variants : List (String × Action) := all.map fun action => (action.name, action)

/-- The levels by the names under which they are stored. -/
def ReportLevel.variants : List (String × ReportLevel) := all.map fun level => (level.name, level)

/-- Read an operation. -/
def Operation.ofDoc : Reader Operation := readVariant Operation.variants

/-- Read a reason. -/
def Reason.ofDoc : Reader Reason := readVariant Reason.variants

/-- Read an action. -/
def Action.ofDoc : Reader Action := readVariant Action.variants

/-- Read a level. -/
def ReportLevel.ofDoc : Reader ReportLevel := readVariant ReportLevel.variants

end AccessPolicy
