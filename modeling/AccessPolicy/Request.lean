import AccessPolicy.Operation

/-!
# AccessPolicy.Request

One access of a process, to be allowed or denied.
-/

namespace AccessPolicy

/-- An access that a process attempts. -/
structure Request where
  /-- The absolute, canonical path. -/
  path : String
  operation : Operation
  process : UInt32
  /-- The parent of the process, where it is known. -/
  parent : Option UInt32
  /-- The number of bytes moved. -/
  bytes : UInt64
  /-- Whether there is something at the path. -/
  targetExists : Bool
  deriving DecidableEq, Repr

namespace Request

/-- Whether a policy grants an operation and does not veto it.  To read or probe
where there is nothing, the permission for just that is enough. -/
def coveredBy (operation : Operation) (targetExists : Bool) (policy : PolicyBits) : Bool :=
  policy.covers operation.required ||
    (!targetExists && operation.asksForContent && policy.covers .allowReadIfNonexistent)

/-- Whether a policy covers the request. -/
def isCoveredBy (r : Request) (policy : PolicyBits) : Bool :=
  coveredBy r.operation r.targetExists policy

end Request

end AccessPolicy
