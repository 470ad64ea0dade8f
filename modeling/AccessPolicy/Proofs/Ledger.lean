import AccessPolicy.Proofs.Family

/-!
# AccessPolicy.Proofs.Ledger

What a process table has to say, told from the observations that were made.

A ledger keeps, for each process, the notes that were taken of it since it was last
forgotten.  From the notes alone:

1. the process is known iff there are any;
2. its parent is the first one named that is not the process itself;
3. the count of a class is the sum of its operations, from the first to the last, each
   of one operation and the bytes it moved.

To forget a process is to forget those that descend from it by 2 as well.

* `Matches.observe` — a table and a ledger that say the same still do after an
  observation.
-/

namespace AccessPolicy

/-! ## Notes -/

/-- What is noted of a process on one occasion. -/
structure Note where
  /-- The parent that is named. -/
  parent : Option UInt32
  /-- The class of an operation and the bytes it moved. -/
  operation : Option (IoClass × UInt64)

namespace Note

/-- What a note changes in a process. -/
def apply (note : Note) (p : Process) : Process :=
  match note.operation with
  | none => p.link note.parent
  | some (cls, bytes) => (p.link note.parent).count cls bytes

@[simp] theorem pid_apply (note : Note) (p : Process) : (note.apply p).pid = p.pid := by
  unfold apply
  split
  · exact Process.pid_link ..
  · exact Process.pid_link ..

/-- The parent of a process: the first one named that is not the process itself. -/
def parentOf (pid : UInt32) (notes : List Note) : Option UInt32 :=
  (notes.filterMap (·.parent)).find? (· ≠ pid)

/-- The operations of a class, as pairs to be added. -/
def tallies (cls : IoClass) (notes : List Note) : List Tally :=
  ((notes.filterMap (·.operation)).filter (·.1 = cls)).map fun o => ⟨1, o.2⟩

/-- The count of a class: its operations, summed from the first to the last. -/
def count (cls : IoClass) (notes : List Note) : Tally := (tallies cls notes).foldl (· + ·) .zero

/-- A process as its notes tell it. -/
def process (pid : UInt32) (notes : List Note) : Process :=
  ⟨pid, parentOf pid notes, ⟨count .read notes, count .write notes, count .other notes⟩⟩

theorem process_nil (pid : UInt32) : process pid [] = .fresh pid := rfl

theorem get_counters_process (pid : UInt32) (notes : List Note) (cls : IoClass) :
    (process pid notes).counters.get cls = count cls notes := by
  cases cls <;> rfl

theorem parentOf_concat (pid : UInt32) (notes : List Note) (note : Note) :
    parentOf pid (notes ++ [note]) =
      (parentOf pid notes).or (note.parent.filter (· ≠ pid)) := by
  have hlast : ([note].filterMap (·.parent)).find? (· ≠ pid) = note.parent.filter (· ≠ pid) := by
    cases h : note.parent with
    | none => simp [h]
    | some q => by_cases hq : q = pid <;> simp [h, hq, Option.filter]
  rw [parentOf, List.filterMap_append, List.find?_append, hlast]
  rfl

theorem count_concat (cls : IoClass) (notes : List Note) (note : Note) :
    count cls (notes ++ [note]) =
      (note.operation.filter (·.1 = cls)).elim (count cls notes) (count cls notes + ⟨1, ·.2⟩) := by
  cases h : note.operation with
  | none => simp [count, tallies, h]
  | some o => by_cases ho : o.1 = cls <;> simp [count, tallies, h, ho, Option.filter]

end Note

/-- A parent is named for good, and never the process itself. -/
theorem Process.parent_link (p : Process) (parent : Option UInt32) :
    (p.link parent).parent = p.parent.or (parent.filter (· ≠ p.pid)) := by
  unfold link
  cases hp : p.parent with
  | some q => simp [hp]
  | none =>
      cases parent with
      | none => simp [hp]
      | some q => by_cases hq : q = p.pid <;> simp [hp, hq, Option.filter]

theorem Process.parent_count (p : Process) (cls : IoClass) (bytes : UInt64) :
    (p.count cls bytes).parent = p.parent := rfl

/-- Counting an operation adds a pair to the count of its class. -/
theorem Process.get_counters_count (p : Process) (cls cls' : IoClass) (bytes : UInt64) :
    (p.count cls bytes).counters.get cls' =
      if cls' = cls then p.counters.get cls' + ⟨1, bytes⟩ else p.counters.get cls' := by
  simp only [count, Counters.get_modify, Tally.record_eq_add]

/-- Counters with the same count of every class are equal. -/
theorem Counters.ext_get {c d : Counters} (h : ∀ cls, c.get cls = d.get cls) : c = d := by
  cases c
  cases d
  simpa [get] using And.intro (h .read) (And.intro (h .write) (h .other))

namespace Note

theorem parent_apply (note : Note) (p : Process) :
    (note.apply p).parent = p.parent.or (note.parent.filter (· ≠ p.pid)) := by
  unfold apply
  split
  · exact Process.parent_link ..
  · rw [Process.parent_count, Process.parent_link]

theorem get_counters_apply (note : Note) (p : Process) (cls : IoClass) :
    (note.apply p).counters.get cls =
      (note.operation.filter (·.1 = cls)).elim (p.counters.get cls)
        (p.counters.get cls + ⟨1, ·.2⟩) := by
  unfold apply
  cases note.operation with
  | none =>
      simp only [Process.counters_link]
      rfl
  | some o =>
      simp only [Process.get_counters_count, Process.counters_link]
      by_cases ho : o.1 = cls
      · simp [ho, Option.filter]
      · simp [ho, Ne.symm ho, Option.filter]

/-- One note more is one change more. -/
theorem process_concat (pid : UInt32) (notes : List Note) (note : Note) :
    process pid (notes ++ [note]) = note.apply (process pid notes) := by
  have hpid : (note.apply (process pid notes)).pid = pid := pid_apply ..
  have hparent : (note.apply (process pid notes)).parent = parentOf pid (notes ++ [note]) := by
    rw [parent_apply, parentOf_concat]
    rfl
  have hcounters : (note.apply (process pid notes)).counters =
      (process pid (notes ++ [note])).counters := by
    refine Counters.ext_get fun cls => ?_
    rw [get_counters_process, get_counters_apply, count_concat, get_counters_process]
  exact Process.ext hpid.symm hparent.symm hcounters.symm

end Note

/-! ## Ledgers -/

/-- The notes of every process since it was last forgotten. -/
def Ledger : Type := UInt32 → List Note

/-- What is observed of processes. -/
inductive Observation where
  /-- Something is noted of a process. -/
  | noted (pid : UInt32) (note : Note)
  /-- A process is forgotten with all that descend from it. -/
  | forgotten (root : UInt32)

namespace Ledger

/-- A ledger without notes. -/
def empty : Ledger := fun _ => []

instance : EmptyCollection Ledger := ⟨empty⟩

/-- What the notes tell of a process. -/
def process? (ledger : Ledger) (pid : UInt32) : Option Process :=
  if (ledger pid).isEmpty then none else some (Note.process pid (ledger pid))

/-- A process descends from another if its parent does, or from itself. -/
def Descends (ledger : Ledger) : UInt32 → UInt32 → Prop :=
  Relation.ReflTransGen fun parent child => Note.parentOf child (ledger child) = some parent

/-- The ledger after a process is forgotten; to forget an unknown one changes nothing. -/
noncomputable def forget (ledger : Ledger) (root : UInt32) : Ledger :=
  open Classical in
  fun pid => if ledger root ≠ [] ∧ ledger.Descends root pid then [] else ledger pid

/-- The ledger after an observation. -/
noncomputable def observe (ledger : Ledger) : Observation → Ledger
  | .noted pid note => fun q => if q = pid then ledger pid ++ [note] else ledger q
  | .forgotten root => ledger.forget root

/-- The ledger of observations, from the first to the last. -/
noncomputable def ofObservations (observations : List Observation) : Ledger :=
  observations.foldl observe ∅

/-! ## Tables that say the same -/

/-- A table says of every process what the ledger tells. -/
structure Matches (ledger : Ledger) (t : ProcessTable) : Prop where
  distinct : t.Distinct
  find?_eq : ∀ pid, t.find? pid = ledger.process? pid

variable {ledger : Ledger} {t : ProcessTable}

theorem matches_empty : (∅ : Ledger).Matches ∅ := ⟨ProcessTable.distinct_empty, fun _ => rfl⟩

theorem isSome_process?_iff {pid : UInt32} :
    (ledger.process? pid).isSome = true ↔ ledger pid ≠ [] := by
  unfold process?
  cases ledger pid <;> simp

theorem getD_process? (ledger : Ledger) (pid : UInt32) :
    (ledger.process? pid).getD (.fresh pid) = Note.process pid (ledger pid) := by
  unfold process?
  cases h : ledger pid <;> simp [Note.process_nil]

theorem process?_noted (ledger : Ledger) (pid q : UInt32) (note : Note) :
    (ledger.observe (.noted pid note)).process? q =
      if q = pid then some (note.apply (Note.process pid (ledger pid))) else ledger.process? q := by
  by_cases hq : q = pid
  · subst hq
    simp [process?, observe, Note.process_concat]
  · simp [process?, observe, hq]

/-- The links of a table are those that the notes name. -/
theorem Matches.parentIn_iff (h : ledger.Matches t) {parent child : UInt32} :
    ProcessTable.ParentIn t.processes parent child ↔
      Note.parentOf child (ledger child) = some parent := by
  rw [h.distinct.parentIn_iff, h.find?_eq, process?]
  cases hnotes : ledger child with
  | nil => simp [Note.parentOf]
  | cons note notes => simp [Note.process]

theorem Matches.mem_family_iff (h : ledger.Matches t) {root pid : UInt32} :
    pid ∈ t.family root ↔ ledger root ≠ [] ∧ ledger.Descends root pid := by
  have hlinks : ProcessTable.ParentIn t.processes =
      fun parent child => Note.parentOf child (ledger child) = some parent := by
    funext parent child
    exact propext h.parentIn_iff
  rw [ProcessTable.mem_family_iff, h.find?_eq, isSome_process?_iff, hlinks, Descends]

theorem Matches.noted (h : ledger.Matches t) (pid : UInt32) (note : Note) :
    (ledger.observe (.noted pid note)).Matches (t.alter pid note.apply) := by
  refine ⟨h.distinct.alter note.pid_apply, fun q => ?_⟩
  rw [ProcessTable.find?_alter note.pid_apply, process?_noted, h.find?_eq, h.find?_eq,
    getD_process?]

theorem Matches.forgotten (h : ledger.Matches t) (root : UInt32) :
    (ledger.observe (.forgotten root)).Matches (t.retire root) := by
  refine ⟨h.distinct.retire root, fun pid => ?_⟩
  rw [ProcessTable.find?_retire, h.find?_eq]
  by_cases hmember : ledger root ≠ [] ∧ ledger.Descends root pid
  · rw [if_pos (h.mem_family_iff.2 hmember)]
    simp [process?, observe, forget, hmember]
  · rw [if_neg (mt h.mem_family_iff.1 hmember)]
    simp [process?, observe, forget, hmember]

end Ledger

/-- What an observation changes in a table. -/
def Observation.apply (t : ProcessTable) : Observation → ProcessTable
  | .noted pid note => t.alter pid note.apply
  | .forgotten root => t.retire root

/-- A table and a ledger that say the same still do after an observation. -/
theorem Ledger.Matches.observe {ledger : Ledger} {t : ProcessTable} (h : ledger.Matches t)
    (o : Observation) : (ledger.observe o).Matches (o.apply t) := by
  cases o with
  | noted pid note => exact h.noted pid note
  | forgotten root => exact h.forgotten root

end AccessPolicy
