import AccessPolicy.Stored.Basic

/-!
# AccessPolicy.Stored.Decision

The stored form of decisions: a record of five fields, all of which are needed.
-/

namespace AccessPolicy.Decision

open Json

/-- The stored form of a decision. -/
def toValue (d : Decision) : Value :=
  .object
    [("allowed", .bool d.allowed),
     ("reported", .bool d.reported),
     ("unexpected", .bool d.unexpected),
     ("matched_depth", .ofNat d.matchedDepth.toNat),
     ("reason", .string d.reason.name)]

/-- The fields of a decision. -/
def schema : Schema :=
  ⟨"AccessDecision",
    [.of "allowed" readBool false,
     .of "reported" readBool false,
     .of "unexpected" readBool false,
     .of "matched_depth" readUInt16 false,
     .of "reason" Reason.ofDoc false]⟩

/-- Read a decision. -/
def ofDoc : Reader Decision := fun d => do
  let given ← schema.read d
  return {
    allowed := ← given.get "allowed" readBool
    reported := ← given.get "reported" readBool
    unexpected := ← given.get "unexpected" readBool
    matchedDepth := ← given.get "matched_depth" readUInt16
    reason := ← given.get "reason" Reason.ofDoc }

end AccessPolicy.Decision
