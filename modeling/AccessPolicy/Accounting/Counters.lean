/-!
# AccessPolicy.Accounting.Counters

Counts of operations and of the bytes they moved, by class of operation.

The sum of two counts starts again from zero when either number would exceed
64 bits; the occasions on which it does are listed by `resets`.

* `toNat_add_of_fits` — a sum that fits is exact;
* `add_zero`, `zero_add` — adding nothing changes nothing;
* `record_eq_add` — counting one number after the other is adding the pair.
-/

namespace AccessPolicy

/-- The class under which an operation is counted. -/
inductive IoClass where
  | read
  | write
  | other
  deriving DecidableEq, Repr

/-- The number of operations of a class and of the bytes they moved. -/
structure Tally where
  operations : UInt64
  bytes : UInt64
  deriving DecidableEq, Repr

/-- A sum that started again from zero. -/
structure TallyReset where
  left : Tally
  right : Tally
  deriving DecidableEq, Repr

namespace Tally

/-! ## Sums -/

/-- Nothing counted. -/
def zero : Tally := ⟨0, 0⟩

/-- Whether both numbers of a sum fit into 64 bits. -/
def fits (a b : Tally) : Bool :=
  a.operations.toNat + b.operations.toNat < UInt64.size &&
    a.bytes.toNat + b.bytes.toNat < UInt64.size

/-- The sum of two counts, or zero if either number does not fit. -/
def add (a b : Tally) : Tally :=
  if a.fits b then ⟨a.operations + b.operations, a.bytes + b.bytes⟩ else zero

instance : Add Tally := ⟨add⟩

/-- The resets that a sum brings about. -/
def resets (a b : Tally) : List TallyReset := if a.fits b then [] else [⟨a, b⟩]

theorem add_def (a b : Tally) :
    a + b = if a.fits b then ⟨a.operations + b.operations, a.bytes + b.bytes⟩ else zero := rfl

/-- A sum that fits is exact. -/
theorem toNat_add_of_fits {a b : Tally} (h : a.fits b = true) :
    (a + b).operations.toNat = a.operations.toNat + b.operations.toNat ∧
      (a + b).bytes.toNat = a.bytes.toNat + b.bytes.toNat := by
  have hfits := h
  simp only [fits, UInt64.size, Bool.and_eq_true, decide_eq_true_eq] at hfits
  simp only [add_def, h, if_true, UInt64.toNat_add]
  omega

theorem fits_comm (a b : Tally) : a.fits b = b.fits a := by
  simp only [fits, Nat.add_comm]

theorem add_comm (a b : Tally) : a + b = b + a := by
  simp only [add_def, fits_comm a b, UInt64.add_comm]

theorem zero_add (a : Tally) : zero + a = a := by
  have h : zero.fits a = true := by
    simp [fits, zero, UInt64.toNat_lt_size]
  rw [add_def, if_pos h]
  simp [zero]

theorem add_zero (a : Tally) : a + zero = a := by rw [add_comm, zero_add]

/-! ## One number after the other -/

/-- The sum of two numbers, if it fits into 64 bits. -/
def checkedAdd (a b : UInt64) : Option UInt64 :=
  if a.toNat + b.toNat < UInt64.size then some (a + b) else none

/-- Count operations and bytes where they are kept, one number after the other, and
say whether a number had no room left.  That number stays as it is at first; then
both start again from zero. -/
def record (t : Tally) (operations bytes : UInt64) : Tally × Bool :=
  let moreOperations := checkedAdd t.operations operations
  let moreBytes := checkedAdd t.bytes bytes
  let updated : Tally := ⟨moreOperations.getD t.operations, moreBytes.getD t.bytes⟩
  if moreOperations.isNone || moreBytes.isNone then (zero, true) else (updated, false)

/-- Counting one number after the other is adding the pair. -/
theorem record_eq_add (t : Tally) (operations bytes : UInt64) :
    t.record operations bytes = (t + ⟨operations, bytes⟩, !t.fits ⟨operations, bytes⟩) := by
  by_cases ho : t.operations.toNat + operations.toNat < UInt64.size <;>
    by_cases hb : t.bytes.toNat + bytes.toNat < UInt64.size <;>
      simp [record, checkedAdd, add_def, fits, ho, hb]

end Tally

/-- The counts of a process, or of several processes together, by class. -/
structure Counters where
  read : Tally
  write : Tally
  other : Tally
  deriving DecidableEq, Repr

namespace Counters

/-- Nothing counted. -/
def zero : Counters := ⟨.zero, .zero, .zero⟩

instance : Inhabited Counters := ⟨zero⟩

/-- The count of one class. -/
def get (c : Counters) : IoClass → Tally
  | .read => c.read
  | .write => c.write
  | .other => c.other

/-- Change the count of one class. -/
def modify (c : Counters) (cls : IoClass) (change : Tally → Tally) : Counters :=
  match cls with
  | .read => { c with read := change c.read }
  | .write => { c with write := change c.write }
  | .other => { c with other := change c.other }

theorem get_modify (c : Counters) (cls cls' : IoClass) (change : Tally → Tally) :
    (c.modify cls change).get cls' = if cls' = cls then change (c.get cls') else c.get cls' := by
  cases cls <;> cases cls' <;> rfl

/-- The sum of two counts, class by class. -/
def add (a b : Counters) : Counters := ⟨a.read + b.read, a.write + b.write, a.other + b.other⟩

instance : Add Counters := ⟨add⟩

/-- The resets that a sum brings about, class by class. -/
def resets (a b : Counters) : List TallyReset :=
  a.read.resets b.read ++ a.write.resets b.write ++ a.other.resets b.other

/-- The count of all classes together. -/
def total (c : Counters) : Tally := c.read + c.write + c.other

/-- The resets that counting all classes together brings about. -/
def totalResets (c : Counters) : List TallyReset :=
  c.read.resets c.write ++ (c.read + c.write).resets c.other

/-- Sum a list of counts, from the first to the last. -/
def sum (cs : List Counters) : Counters := cs.foldl add zero

/-- The resets that summing a list on to what is before it brings about. -/
def sumResetsFrom (before : Counters) : List Counters → List TallyReset
  | [] => []
  | c :: cs => before.resets c ++ sumResetsFrom (before + c) cs

/-- The resets that summing a list brings about, in order. -/
def sumResets (cs : List Counters) : List TallyReset := sumResetsFrom zero cs

end Counters

end AccessPolicy
