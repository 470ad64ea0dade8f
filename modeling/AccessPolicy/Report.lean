import AccessPolicy.Decision
import AccessPolicy.Request

/-!
# AccessPolicy.Report

The report of an access to the host.

While a request is answered, the path of its report is lent from the request.
Whoever keeps the report detaches it: every field is taken over, and the text of
the path is kept.
-/

namespace AccessPolicy

/-- A reported access. -/
structure Report where
  /-- The process in the build graph to which the access belongs. -/
  pipId : UInt64
  process : UInt32
  parent : Option UInt32
  operation : Operation
  /-- The path as it was requested. -/
  path : String
  decision : Decision
  /-- The policy at the path; empty if there is none to rely upon. -/
  policy : PolicyBits
  level : ReportLevel
  action : Action
  deriving DecidableEq, Repr

/-! ## Handing over -/

/-- The text of a path. -/
inductive PathText where
  /-- It belongs to the request. -/
  | lent (text : String)
  /-- It belongs to the report. -/
  | kept (text : String)
  deriving DecidableEq, Repr

namespace PathText

/-- The text, whoever it belongs to. -/
def text : PathText → String
  | .lent text => text
  | .kept text => text

/-- Keep the text. -/
def keep (p : PathText) : PathText := .kept p.text

end PathText

/-- A report as it is handed over. -/
structure Notice where
  pipId : UInt64
  process : UInt32
  parent : Option UInt32
  operation : Operation
  path : PathText
  decision : Decision
  policy : PolicyBits
  level : ReportLevel
  action : Action
  deriving DecidableEq, Repr

namespace Notice

/-- What is reported.  Notices that report the same count as equal, whoever their paths belong
to. -/
def report (n : Notice) : Report :=
  { pipId := n.pipId
    process := n.process
    parent := n.parent
    operation := n.operation
    path := n.path.text
    decision := n.decision
    policy := n.policy
    level := n.level
    action := n.action }

/-- Detach a report from the request. -/
def detach (n : Notice) : Notice :=
  { pipId := n.pipId
    process := n.process
    parent := n.parent
    operation := n.operation
    path := n.path.keep
    decision := n.decision
    policy := n.policy
    level := n.level
    action := n.action }

/-- A report with a path of its own. -/
def ofReport (r : Report) : Notice :=
  { pipId := r.pipId
    process := r.process
    parent := r.parent
    operation := r.operation
    path := .kept r.path
    decision := r.decision
    policy := r.policy
    level := r.level
    action := r.action }

end Notice

end AccessPolicy
