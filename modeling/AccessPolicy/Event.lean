import AccessPolicy.Path
import AccessPolicy.PolicyBits.Text
import AccessPolicy.Report

/-!
# AccessPolicy.Event

What the library logs: every event has a level, a message and named fields.
-/

namespace AccessPolicy

/-- What a sink that panics leaves behind. -/
inductive PanicPayload where
  /-- A text. -/
  | text (s : String)
  /-- Anything else. -/
  | other
  deriving DecidableEq, Repr

/-- A panic in words. -/
def PanicPayload.message : PanicPayload → String
  | .text s => s
  | .other => "unknown panic"

/-- The weight of an event. -/
inductive EventLevel where
  | debug
  | info
  | warn
  deriving DecidableEq, Repr

/-- The name of a weight. -/
def EventLevel.name : EventLevel → String
  | .debug => "debug"
  | .info => "info"
  | .warn => "warn"

/-- The value of a field. -/
inductive FieldValue where
  | number (n : Nat)
  | text (s : String)
  deriving DecidableEq, Repr

/-- An occasion for logging. -/
inductive Event where
  /-- A scope tree was built. -/
  | manifestBuilt (directives nodes : Nat)
  /-- A count of a process started again from zero. -/
  | countReset (pid : UInt32) (cls : IoClass)
  /-- A sum of counts started again from zero. -/
  | sumReset (reset : TallyReset)
  /-- A family of processes was forgotten. -/
  | familyRetired (root : UInt32) (processes : Nat)
  /-- An access was denied. -/
  | accessDenied (request : Request) (reason : Reason)
  /-- A request named no path. -/
  | requestMalformed (request : Request) (error : PathError)
  /-- A report was lost in a panic. -/
  | reportLost (path : String) (payload : PanicPayload)
  /-- No more accesses are admitted. -/
  | tearingDown (pipId : UInt64) (arbitrated denied reported : Nat)
  /-- A report of a denied access. -/
  | deniedReport (report : Report)
  /-- A report of any other access. -/
  | otherReport (report : Report)
  deriving DecidableEq, Repr

/-- The title of a class of operations. -/
def IoClass.title : IoClass → String
  | .read => "Read"
  | .write => "Write"
  | .other => "Other"

/-- A count in a description. -/
def Tally.describe (t : Tally) : String :=
  "IoTypeCounters \x7b operation_count: " ++ toString t.operations.toNat ++
    ", transfer_count: " ++ toString t.bytes.toNat ++ " \x7d"

namespace Event

/-- The weight of an event. -/
def level : Event → EventLevel
  | .manifestBuilt .. | .countReset .. | .sumReset .. | .familyRetired .. | .accessDenied .. =>
      .debug
  | .tearingDown .. | .otherReport .. => .info
  | .requestMalformed .. | .reportLost .. | .deniedReport .. => .warn

/-- The message of an event. -/
def message : Event → String
  | .manifestBuilt .. => "built access manifest"
  | .countReset .. | .sumReset .. => "io counter overflow, resetting to zero"
  | .familyRetired .. => "retired process tree"
  | .accessDenied .. | .deniedReport .. => "access denied"
  | .requestMalformed .. => "arbitration failed, denying access"
  | .reportLost .. => "report sink panicked, report lost"
  | .tearingDown .. => "access arbiter tearing down"
  | .otherReport .. => "access reported"

/-- The fields of an event. -/
def fields : Event → List (String × FieldValue)
  | .manifestBuilt directives nodes => [("directives", .number directives), ("nodes", .number nodes)]
  | .countReset pid cls => [("pid", .number pid.toNat), ("class", .text cls.title)]
  | .sumReset r => [("self", .text r.left.describe), ("other", .text r.right.describe)]
  | .familyRetired root processes =>
      [("root", .number root.toNat), ("processes", .number processes)]
  | .accessDenied r reason =>
      [("path", .text r.path), ("operation", .text r.operation.name),
        ("pid", .number r.process.toNat), ("reason", .text reason.message)]
  | .requestMalformed r error =>
      [("path", .text r.path), ("operation", .text r.operation.name),
        ("pid", .number r.process.toNat),
        ("error", .text ("malformed request path: " ++ error.message))]
  | .reportLost path payload => [("path", .text path), ("error", .text payload.message)]
  | .tearingDown pipId arbitrated denied reported =>
      [("pip_id", .number pipId.toNat), ("arbitrated", .number arbitrated),
        ("denied", .number denied), ("reported", .number reported)]
  | .deniedReport r =>
      [("pip_id", .number r.pipId.toNat), ("process_id", .number r.process.toNat),
        ("operation", .text r.operation.name), ("path", .text r.path),
        ("reason", .text r.decision.reason.message), ("policy", .text r.policy.describe),
        ("level", .text r.level.title)]
  | .otherReport r =>
      [("pip_id", .number r.pipId.toNat), ("process_id", .number r.process.toNat),
        ("operation", .text r.operation.name), ("path", .text r.path),
        ("action", .text r.action.title), ("policy", .text r.policy.describe),
        ("level", .text r.level.title)]

end Event

end AccessPolicy
