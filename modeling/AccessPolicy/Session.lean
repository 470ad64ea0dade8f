import AccessPolicy.Arbiter
import AccessPolicy.Guards

/-!
# AccessPolicy.Session

A run of several arbiters and process tables on one thread, one act at a time.

Every arbiter writes to one of the tables, which it may share with others.  An act
that names an arbiter, a table or a guard that there is not is refused and changes
nothing.
-/

namespace AccessPolicy

/-- An arbiter and the number of the table to which it writes. -/
structure Seat where
  arbiter : Arbiter
  table : Nat

/-- The state of a run. -/
structure Session where
  tables : List ProcessTable
  seats : List Seat
  guards : Guards

/-- One act of a run. -/
inductive Act where
  /-- Have a request decided, on a level of its own or on one that is held. -/
  | arbitrate (seat : Nat) (guard : Option Nat) (request : Request)
  /-- Have an arbiter let in no more accesses. -/
  | tearDown (seat : Nat)
  /-- Enter a level. -/
  | enter
  /-- Give up a level. -/
  | leave (guard : Nat)
  /-- Observe a process. -/
  | register (table : Nat) (pid : UInt32) (parent : Option UInt32)
  /-- Count an operation. -/
  | record (table : Nat) (pid : UInt32) (cls : IoClass) (bytes : UInt64)
  /-- Forget a family of processes. -/
  | retire (table : Nat) (root : UInt32)
  deriving DecidableEq, Repr

/-- What an act gives back. -/
inductive Answer where
  | decision (d : Decision)
  | guard (g : Guard)
  | counters (c : Counters)
  | done
  | refused
  deriving DecidableEq, Repr

/-- What an act leaves behind. -/
structure Step where
  answer : Answer
  /-- The report that was handed to a sink. -/
  report : Option Report
  session : Session
  events : List Event

namespace Session

/-- A session with one table and no arbiter. -/
def empty : Session := ⟨[∅], [], .none⟩

/-- Add an arbiter that writes to the first table, or to a table of its own. -/
def addArbiter (s : Session) (arbiter : Arbiter) (shared : Bool) : Session :=
  if shared then { s with seats := s.seats ++ [⟨arbiter, 0⟩] }
  else { s with seats := s.seats ++ [⟨arbiter, s.tables.length⟩], tables := s.tables ++ [∅] }

/-- An act that is refused. -/
def refuse (s : Session) : Step := ⟨.refused, none, s, []⟩

/-- Have a request decided at a depth of entered levels. -/
def arbitrateAt (s : Session) (seat depth : Nat) (request : Request) : Step :=
  match s.seats[seat]? with
  | none => s.refuse
  | some ⟨arbiter, table⟩ =>
      match s.tables[table]? with
      | none => s.refuse
      | some t =>
          let out := arbiter.arbitrateAt depth t request
          ⟨.decision out.decision, out.report,
            { s with
              seats := s.seats.set seat ⟨out.arbiter, table⟩
              tables := s.tables.set table out.table },
            out.events⟩

/-- Change a table. -/
def onTable (s : Session) (table : Nat) (f : ProcessTable → Answer × ProcessTable × List Event) :
    Step :=
  match s.tables[table]? with
  | none => s.refuse
  | some t =>
      let (answer, t', events) := f t
      ⟨answer, none, { s with tables := s.tables.set table t' }, events⟩

/-- Perform one act. -/
def perform (s : Session) : Act → Step
  | .arbitrate seat none request => s.arbitrateAt seat (s.guards.begun none).depth request
  | .arbitrate seat (some guard) request =>
      match s.guards.find? guard with
      | some _ => s.arbitrateAt seat (s.guards.begun (some guard)).depth request
      | none => s.refuse
  | .tearDown seat =>
      match s.seats[seat]? with
      | none => s.refuse
      | some ⟨arbiter, table⟩ =>
          let (arbiter, events) := arbiter.tearDown
          ⟨.done, none, { s with seats := s.seats.set seat ⟨arbiter, table⟩ }, events⟩
  | .enter =>
      let (guard, guards) := s.guards.enter
      ⟨.guard guard, none, { s with guards }, []⟩
  | .leave guard =>
      match s.guards.find? guard with
      | some _ => ⟨.done, none, { s with guards := s.guards.leave guard }, []⟩
      | none => s.refuse
  | .register table pid parent => s.onTable table fun t => (.done, t.register pid parent, [])
  | .record table pid cls bytes =>
      s.onTable table fun t =>
        (.done, t.record pid none cls bytes,
          if t.recordResets pid cls bytes then [.countReset pid cls] else [])
  | .retire table root =>
      s.onTable table fun t =>
        (.counters (t.aggregate root), t.retire root,
          (t.aggregateResets root).map .sumReset ++
            [.familyRetired root (t.family root).length])

/-- Perform acts in order. -/
def run (s : Session) : List Act → List Step
  | [] => []
  | act :: acts =>
      let step := s.perform act
      step :: run step.session acts

/-- Do something on another thread, which has guards of its own. -/
def onThread (s : Session) (f : Session → Session × α) : Session × α :=
  let (s', a) := f { s with guards := .none }
  ({ s' with guards := s.guards }, a)

/-- Take what has arrived at the sink of an arbiter. -/
def take (s : Session) (seat : Nat) (f : Inbox → Inbox) : Session :=
  { s with
    seats := s.seats.modify seat fun x =>
      { x with arbiter := { x.arbiter with inbox := f x.arbiter.inbox } } }

end Session

end AccessPolicy
