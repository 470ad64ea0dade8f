import AccessPolicy.Accounting.Counters
import AccessPolicy.Json.Decode

/-!
# AccessPolicy.Stored.Counters

The stored form of counts: a record for each class, all of whose fields are
needed.
-/

namespace AccessPolicy

open Json

namespace Tally

/-- The stored form of the count of a class. -/
def toValue (t : Tally) : Value :=
  .object
    [("operation_count", .ofNat t.operations.toNat), ("transfer_count", .ofNat t.bytes.toNat)]

/-- The fields of the count of a class. -/
def schema : Schema :=
  ⟨"IoTypeCounters",
    [.of "operation_count" readUInt64 false, .of "transfer_count" readUInt64 false]⟩

/-- Read the count of a class. -/
def ofDoc : Reader Tally := fun d => do
  let given ← schema.read d
  return {
    operations := ← given.get "operation_count" readUInt64
    bytes := ← given.get "transfer_count" readUInt64 }

end Tally

namespace Counters

/-- The stored form of counts. -/
def toValue (c : Counters) : Value :=
  .object [("read", c.read.toValue), ("write", c.write.toValue), ("other", c.other.toValue)]

/-- The fields of counts. -/
def schema : Schema :=
  ⟨"IoCounters",
    [.of "read" Tally.ofDoc false, .of "write" Tally.ofDoc false, .of "other" Tally.ofDoc false]⟩

/-- Read counts. -/
def ofDoc : Reader Counters := fun d => do
  let given ← schema.read d
  return {
    read := ← given.get "read" Tally.ofDoc
    write := ← given.get "write" Tally.ofDoc
    other := ← given.get "other" Tally.ofDoc }

end Counters

end AccessPolicy
