import AccessPolicy.Report
import AccessPolicy.Stored.Decision

/-!
# AccessPolicy.Stored.Report

The stored form of reports: a record of nine fields.  The parent of the process
may be null, and its member may be missing.

A report that is handed over has the same stored form, whether its path is lent
or kept.
-/

namespace AccessPolicy

namespace Report

open Json

/-- The stored form of a report. -/
def toValue (r : Report) : Value :=
  .object
    [("pip_id", .ofNat r.pipId.toNat),
     ("process_id", .ofNat r.process.toNat),
     ("parent_process_id", .ofOption (fun pid => .ofNat pid.toNat) r.parent),
     ("operation", .string r.operation.fullName),
     ("path", .string r.path),
     ("decision", r.decision.toValue),
     ("policy", r.policy.toValue),
     ("level", .string r.level.name),
     ("action", .string r.action.name)]

/-- The fields of a report. -/
def schema : Schema :=
  ⟨"AccessReport",
    [.of "pip_id" readUInt64 false,
     .of "process_id" readUInt32 false,
     .of "parent_process_id" (readOptional readUInt32) false,
     .of "operation" Operation.ofDoc false,
     .of "path" readString false,
     .of "decision" Decision.ofDoc false,
     .of "policy" PolicyBits.ofDoc false,
     .of "level" ReportLevel.ofDoc false,
     .of "action" Action.ofDoc false]⟩

/-- Read a report. -/
def ofDoc : Reader Report := fun d => do
  let given ← schema.read d
  return {
    pipId := ← given.get "pip_id" readUInt64
    process := ← given.get "process_id" readUInt32
    parent := ← given.getD "parent_process_id" (readOptional readUInt32) none
    operation := ← given.get "operation" Operation.ofDoc
    path := ← given.get "path" readString
    decision := ← given.get "decision" Decision.ofDoc
    policy := ← given.get "policy" PolicyBits.ofDoc
    level := ← given.get "level" ReportLevel.ofDoc
    action := ← given.get "action" Action.ofDoc }

/-- The text of a report. -/
def text (r : Report) : String := r.toValue.text

/-- Read the text of a report. -/
def ofText (s : String) : Except Failure Report := readText ofDoc s

end Report

namespace Notice

open Json

/-- The stored form does not tell to whom the path belongs. -/
def toValue (n : Notice) : Value := n.report.toValue

/-- The text of a report that is handed over. -/
def text (n : Notice) : String := n.toValue.text

/-- Read the text of a report; its path is a text of its own. -/
def ofText (s : String) : Except Failure Notice := (Report.ofText s).map ofReport

end Notice

end AccessPolicy
