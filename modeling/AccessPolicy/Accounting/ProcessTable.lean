import AccessPolicy.Accounting.Counters

/-!
# AccessPolicy.Accounting.ProcessTable

What the processes of a job have done: the counts of every process observed, and
which process is the parent of which.

The first parent named for a process stays its parent; a process is never its own
parent.  Since numbers of processes are used again, the parents may form a cycle.

The *family* of a process is the process and all its descendants.

* `find?_alter` — an observation of one process concerns no other.
-/

namespace AccessPolicy

/-- An observed process. -/
@[ext] structure Process where
  pid : UInt32
  parent : Option UInt32
  counters : Counters
  deriving DecidableEq, Repr

namespace Process

/-- A process that has done nothing yet. -/
def fresh (pid : UInt32) : Process := ⟨pid, none, .zero⟩

/-- Name a parent for a process, if it needs one. -/
def link (p : Process) (parent : Option UInt32) : Process :=
  match p.parent, parent with
  | none, some q => if q = p.pid then p else { p with parent := some q }
  | _, _ => p

/-- Count an operation that moved some bytes. -/
def count (p : Process) (cls : IoClass) (bytes : UInt64) : Process :=
  { p with counters := p.counters.modify cls fun t => (t.record 1 bytes).1 }

@[simp] theorem pid_link (p : Process) (parent : Option UInt32) : (p.link parent).pid = p.pid := by
  unfold link
  repeat' split
  all_goals rfl

@[simp] theorem pid_count (p : Process) (cls : IoClass) (bytes : UInt64) :
    (p.count cls bytes).pid = p.pid := rfl

@[simp] theorem counters_link (p : Process) (parent : Option UInt32) :
    (p.link parent).counters = p.counters := by
  unfold link
  repeat' split
  all_goals rfl

end Process

/-- The observed processes, in the order in which they were first seen. -/
structure ProcessTable where
  processes : List Process
  deriving DecidableEq, Repr

namespace ProcessTable

/-- The table before anything is observed. -/
def empty : ProcessTable := ⟨[]⟩

instance : EmptyCollection ProcessTable := ⟨empty⟩

instance : Inhabited ProcessTable := ⟨∅⟩

/-- Number of processes. -/
def size (t : ProcessTable) : Nat := t.processes.length

/-- What is known of a process. -/
def find? (t : ProcessTable) (pid : UInt32) : Option Process :=
  t.processes.find? (·.pid = pid)

/-- The counts of a process. -/
def counters? (t : ProcessTable) (pid : UInt32) : Option Counters :=
  (t.find? pid).map (·.counters)

/-! ## Observations -/

/-- Change what is known of a process, which is added if it is new. -/
def alter (t : ProcessTable) (pid : UInt32) (change : Process → Process) : ProcessTable :=
  if (t.find? pid).isSome then
    ⟨t.processes.map fun p => if p.pid = pid then change p else p⟩
  else ⟨t.processes ++ [change (.fresh pid)]⟩

theorem pid_of_find? {t : ProcessTable} {pid : UInt32} {p : Process} (h : t.find? pid = some p) :
    p.pid = pid := by
  simpa using List.find?_some h

/-- Changing one process changes what is known of it and of no other. -/
theorem find?_alter {t : ProcessTable} {pid q : UInt32} {change : Process → Process}
    (h : ∀ p : Process, (change p).pid = p.pid) :
    (t.alter pid change).find? q =
      if q = pid then some (change ((t.find? pid).getD (.fresh pid))) else t.find? q := by
  have hmap (ps : List Process) :
      (ps.map fun p => if p.pid = pid then change p else p).find? (·.pid = q) =
        (ps.find? (·.pid = q)).map fun p => if p.pid = pid then change p else p := by
    induction ps with
    | nil => rfl
    | cons p ps ih =>
        have hp : (if p.pid = pid then change p else p).pid = p.pid := by split <;> simp [h]
        by_cases hq : p.pid = q <;> simp_all
  have hfresh : (change (.fresh pid)).pid = pid := h _
  cases hfound : t.find? pid with
  | some p =>
      have hpid := pid_of_find? hfound
      simp only [alter, hfound, Option.isSome_some, if_true, Option.getD_some]
      rw [find?, hmap]
      by_cases hq : q = pid
      · subst hq
        rw [find?] at hfound
        simp [hfound, hpid]
      · rw [if_neg hq, find?]
        cases hother : t.processes.find? (·.pid = q) with
        | none => rfl
        | some r =>
            have hr : r.pid = q := pid_of_find? (t := t) hother
            simp [hr, hq]
  | none =>
      simp only [alter, hfound, Option.isSome_none, Bool.false_eq_true, if_false,
        Option.getD_none]
      rw [find?, List.find?_append]
      by_cases hq : q = pid
      · subst hq
        rw [find?] at hfound
        simp [hfound, hfresh]
      · simp [find?, hq, hfresh, Ne.symm hq]

/-- Observe a process and perhaps its parent. -/
def register (t : ProcessTable) (pid : UInt32) (parent : Option UInt32) : ProcessTable :=
  t.alter pid (·.link parent)

/-- Count an operation of a process. -/
def record (t : ProcessTable) (pid : UInt32) (parent : Option UInt32) (cls : IoClass)
    (bytes : UInt64) : ProcessTable :=
  t.alter pid fun p => (p.link parent).count cls bytes

/-- Whether counting an operation of a process makes a count start again from
zero. -/
def recordResets (t : ProcessTable) (pid : UInt32) (cls : IoClass) (bytes : UInt64) : Bool :=
  ((((t.counters? pid).getD .zero).get cls).record 1 bytes).2

/-! ## Families -/

/-- The processes whose parent is `pid`. -/
def childrenIn (pid : UInt32) (ps : List Process) : List Process :=
  ps.filter fun p => p.parent = some pid

/-- The processes whose parent is not `pid`. -/
def othersIn (pid : UInt32) (ps : List Process) : List Process :=
  ps.filter fun p => !(p.parent = some pid)

theorem length_childrenIn_add (pid : UInt32) (ps : List Process) :
    (childrenIn pid ps).length + (othersIn pid ps).length = ps.length := by
  induction ps with
  | nil => rfl
  | cons p ps ih =>
      by_cases h : p.parent = some pid <;> simp_all [childrenIn, othersIn] <;> omega

/-- The processes `pending` with their descendants, each before its own, among
the processes `waiting` that are in no family yet. -/
def descend (waiting : List Process) : List UInt32 → List UInt32
  | [] => []
  | pid :: pending =>
      pid :: descend (othersIn pid waiting) ((childrenIn pid waiting).map (·.pid) ++ pending)
termination_by pending => waiting.length + pending.length
decreasing_by
  have := length_childrenIn_add pid waiting
  simp only [List.length_append, List.length_map, List.length_cons]
  omega

/-- The family of a process, the process first; an unknown process has none. -/
def family (t : ProcessTable) (root : UInt32) : List UInt32 :=
  if (t.find? root).isSome then descend (t.processes.filter (·.pid ≠ root)) [root] else []

/-- The counts of the members of a family. -/
def familyCounters (t : ProcessTable) (root : UInt32) : List Counters :=
  (t.family root).filterMap t.counters?

/-- The counts of a family together. -/
def aggregate (t : ProcessTable) (root : UInt32) : Counters := .sum (t.familyCounters root)

/-- The resets that summing the counts of a family brings about. -/
def aggregateResets (t : ProcessTable) (root : UInt32) : List TallyReset :=
  Counters.sumResets (t.familyCounters root)

/-- Forget a family. -/
def retire (t : ProcessTable) (root : UInt32) : ProcessTable :=
  let members := t.family root
  ⟨t.processes.filter fun p => !members.contains p.pid⟩

end ProcessTable

end AccessPolicy
