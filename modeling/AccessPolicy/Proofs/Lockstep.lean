import AccessPolicy.Proofs.Callbacks
import Mathlib.Data.List.Forall2

/-!
# AccessPolicy.Proofs.Lockstep

Two sessions that perform the same acts.

A *coupling* says how the arbiters of the two sessions may differ, seat by seat, and what this
leaves of what they decide and report.  Any difference is one if it outlasts

1. a call that is passed through;
2. a call at the only level, whose report, if there is one, has been delivered;
3. tearing down.

Whether the sessions also write the same to their tables is part of the coupling.

* `judge_congr` — verdicts of two arbiters;
* `arbiter_arbitrateAt_one`, `report_arbitrateAt_one` — a call at the only level, delivered;
* `Coupling.Sessions.perform` — a coupling outlasts every act;
* `Coupling.Sessions.run`, `Coupling.Sessions.after` — and so every run.
-/

namespace AccessPolicy

/-! ## Calls with their delivery -/

/-- What has arrived at a sink after it was told to finish. -/
def Sink.flush : Sink → Inbox → Inbox
  | .logging, inbox => inbox
  | _, inbox => { inbox with flushes := inbox.flushes + 1 }

@[simp] theorem Sink.reports_flush (sink : Sink) (inbox : Inbox) :
    (sink.flush inbox).reports = inbox.reports := by cases sink <;> rfl

@[simp] theorem Sink.nested_flush (sink : Sink) (inbox : Inbox) :
    (sink.flush inbox).nested = inbox.nested := by cases sink <;> rfl

theorem Sink.flushes_flush_congr (sink : Sink) {x y : Inbox} (h : x.flushes = y.flushes) :
    (sink.flush x).flushes = (sink.flush y).flushes := by cases sink <;> simp [flush, h]

namespace Arbiter

/-- The report of the verdict on a request, if it is reported. -/
def report? (a : Arbiter) (request : Request) : Option Report :=
  if (a.judge request).1.decision.reported then some (a.report request (a.judge request).1)
  else none

/-- An arbiter whose sink has been handed a report. -/
def handed (a : Arbiter) (r : Report) : Arbiter :=
  let n := (a.sink.requests a.inbox r).length
  { a.suppress n with inbox := a.sink.keep r n a.inbox }

/-- An arbiter that has decided a request at the only level and reported it. -/
def settle (a : Arbiter) (request : Request) : Arbiter :=
  let counted := a.count (a.judge request).1.decision (a.judge request).2
  (a.report? request).elim counted counted.handed

/-- Two arbiters that are both torn down or both not, and have the same tree, judge alike, if they
do so where the policy is the same. -/
theorem judge_congr {r : Verdict → Verdict → Prop} (hrefl : ∀ v, r v v) {a b : Arbiter}
    (htearingDown : a.tearingDown = b.tearingDown) (htree : a.tree = b.tree) (request : Request)
    (hfound : ∀ found, r (.ofResolution a.settings request found)
      (.ofResolution b.settings request found)) :
    r (a.judge request).1 (b.judge request).1 ∧ (a.judge request).2 = (b.judge request).2 := by
  unfold judge
  rw [htearingDown, htree]
  split
  · exact ⟨hrefl _, rfl⟩
  · cases b.tree.resolve request.path with
    | error e => exact ⟨hrefl _, rfl⟩
    | ok found => exact ⟨hfound found, rfl⟩

variable (a : Arbiter) (t : ProcessTable) (request : Request)

theorem report_arbitrateAt_one : (a.arbitrateAt 1 t request).report = a.report? request := by
  rw [arbitrateAt_one, arbitrateOutermost, report?]
  dsimp only
  split <;> rfl

theorem arbiter_arbitrateAt_one : (a.arbitrateAt 1 t request).arbiter = a.settle request := by
  rw [arbitrateAt_one, arbitrateOutermost, settle, report?]
  dsimp only
  split
  · rw [deliver_eq]
    rfl
  · rfl

/-- To tear down is to admit no more accesses, and to tell the sink the first time. -/
theorem tearDown_eq :
    a.tearDown.1 =
      { a with
        tearingDown := true
        inbox := if a.tearingDown then a.inbox else a.sink.flush a.inbox } := by
  unfold tearDown
  split
  · rename_i hdown
    cases a
    cases hdown
    rfl
  · cases a.sink <;> rfl

end Arbiter

/-! ## Couplings -/

/-- Answers of the same kind, whose contents are related. -/
def Answer.Alike (decisions : Decision → Decision → Prop) (counters : Counters → Counters → Prop) :
    Answer → Answer → Prop
  | .decision d, .decision e => decisions d e
  | .counters c, .counters c' => counters c c'
  | x, y => x = y

theorem Answer.Alike.imp {decisions decisions' : Decision → Decision → Prop}
    {counters counters' : Counters → Counters → Prop} {x y : Answer}
    (h : x.Alike decisions counters y) (hdecisions : ∀ d e, decisions d e → decisions' d e)
    (hcounters : ∀ c c', counters c c' → counters' c c') : x.Alike decisions' counters' y := by
  unfold Alike at h ⊢
  split at h
  · exact hdecisions _ _ h
  · exact hcounters _ _ h
  · exact h

/-- A difference between two sessions that outlasts every act. -/
structure Coupling where
  /-- How two arbiters in the same seat may differ. -/
  arbiters : Arbiter → Arbiter → Prop
  /-- How their decisions may differ. -/
  decisions : Decision → Decision → Prop
  /-- How the reports may differ that they hand to their sinks. -/
  reports : Option Report → Option Report → Prop
  /-- Whether they write the same to their tables. -/
  sameTables : Prop
  decisions_passThrough : decisions .passThrough .passThrough
  reports_none : reports none none
  decisions_judge : ∀ {a b}, arbiters a b → ∀ request,
    decisions (a.judge request).1.decision (b.judge request).1.decision
  reports_report? : ∀ {a b}, arbiters a b → ∀ request,
    reports (a.report? request) (b.report? request)
  allowed_judge : sameTables → ∀ {a b}, arbiters a b → ∀ request,
    (a.judge request).1.decision.allowed = (b.judge request).1.decision.allowed
  countSuppressed : ∀ {a b}, arbiters a b → arbiters a.countSuppressed b.countSuppressed
  settle : ∀ {a b}, arbiters a b → ∀ request, arbiters (a.settle request) (b.settle request)
  tearDown : ∀ {a b}, arbiters a b → arbiters a.tearDown.1 b.tearDown.1

namespace Coupling

variable (c : Coupling)

/-- The same seat in two sessions: its arbiters write to the same table. -/
structure Seats (x y : Seat) : Prop where
  arbiters : c.arbiters x.arbiter y.arbiter
  table : x.table = y.table

/-- Sessions that differ by no more than a coupling. -/
structure Sessions (s u : Session) : Prop where
  seats (i : Nat) : Option.Rel c.Seats s.seats[i]? u.seats[i]?
  tables (k : Nat) : Option.Rel (fun t t' => c.sameTables → t = t') s.tables[k]? u.tables[k]?
  guards : s.guards = u.guards

/-- What two such sessions leave behind when they perform the same act. -/
structure Steps (x y : Step) : Prop where
  answer : x.answer.Alike c.decisions (fun k k' => c.sameTables → k = k') y.answer
  report : c.reports x.report y.report
  session : c.Sessions x.session y.session

variable {c} {s u : Session}

/-! ## Acts -/

theorem rel_cases {α : Type} {r : α → α → Prop} {x y : Option α} (h : Option.Rel r x y) :
    (x = none ∧ y = none) ∨ ∃ a b, x = some a ∧ y = some b ∧ r a b := by
  cases h with
  | none => exact .inl ⟨rfl, rfl⟩
  | some hab => exact .inr ⟨_, _, rfl, rfl, hab⟩

/-- Entries that are related are so after related changes in the same place. -/
theorem rel_set {α : Type} {r : α → α → Prop} {xs ys : List α}
    (h : ∀ i : Nat, Option.Rel r xs[i]? ys[i]?) {x y : α} (hxy : r x y) (j i : Nat) :
    Option.Rel r (xs.set j x)[i]? (ys.set j y)[i]? := by
  rw [List.getElem?_set', List.getElem?_set']
  by_cases hj : j = i
  · rw [if_pos hj, if_pos hj]
    rcases rel_cases (h i) with ⟨hx, hy⟩ | ⟨x', y', hx, hy, -⟩
    · rw [hx, hy]
      exact .none
    · rw [hx, hy]
      exact .some hxy
  · rw [if_neg hj, if_neg hj]
    exact h i

namespace Sessions

theorem refuse (h : c.Sessions s u) : c.Steps s.refuse u.refuse := ⟨rfl, c.reports_none, h⟩

/-- Other arbiters in a seat. -/
theorem setSeat (h : c.Sessions s u) {x y : Seat} (hxy : c.Seats x y) (i : Nat) :
    c.Sessions { s with seats := s.seats.set i x } { u with seats := u.seats.set i y } :=
  ⟨rel_set h.seats hxy i, h.tables, h.guards⟩

/-- Other contents of a table. -/
theorem setTable (h : c.Sessions s u) {t t' : ProcessTable} (ht : c.sameTables → t = t')
    (k : Nat) :
    c.Sessions { s with tables := s.tables.set k t } { u with tables := u.tables.set k t' } :=
  ⟨h.seats, rel_set h.tables ht k, h.guards⟩

/-- What a call leaves behind in a seat and in its table. -/
theorem setCall (h : c.Sessions s u) {a b : Arbiter} (hab : c.arbiters a b) {t t' : ProcessTable}
    (ht : c.sameTables → t = t') (i k : Nat) :
    c.Sessions { s with seats := s.seats.set i ⟨a, k⟩, tables := s.tables.set k t }
      { u with seats := u.seats.set i ⟨b, k⟩, tables := u.tables.set k t' } := by
  have hseat : c.Seats ⟨a, k⟩ ⟨b, k⟩ := ⟨hab, rfl⟩
  exact (h.setSeat hseat i).setTable ht k

/-- A call is refused in both sessions, or its outcomes differ by no more than the coupling. -/
theorem arbitrateAt (h : c.Sessions s u) (seat depth : Nat) (request : Request) :
    c.Steps (s.arbitrateAt seat depth request) (u.arbitrateAt seat depth request) := by
  rcases rel_cases (h.seats seat) with ⟨hs, hu⟩ | ⟨⟨a, k⟩, ⟨b, k'⟩, hs, hu, hab, hk⟩
  · simp only [Session.arbitrateAt, hs, hu]
    exact h.refuse
  · dsimp only at hab hk
    subst hk
    rcases rel_cases (h.tables k) with ⟨ht, ht'⟩ | ⟨t, t', ht, ht', htables⟩
    · simp only [Session.arbitrateAt, hs, hu, ht, ht']
      exact h.refuse
    · rw [Session.arbitrateAt_eq hs ht, Session.arbitrateAt_eq hu ht']
      by_cases hdepth : depth = 1
      · subst hdepth
        simp only [Arbiter.decision_arbitrateAt_one, Arbiter.report_arbitrateAt_one,
          Arbiter.arbiter_arbitrateAt_one, Arbiter.table_arbitrateAt_one]
        -- The tables take in what is allowed, and nothing else of a decision.
        have haccount : c.sameTables →
            Arbiter.account (a.judge request).1.decision request t =
              Arbiter.account (b.judge request).1.decision request t' := fun hsame => by
          rw [Arbiter.account, Arbiter.account, c.allowed_judge hsame hab, htables hsame]
        exact ⟨c.decisions_judge hab request, c.reports_report? hab request,
          h.setCall (c.settle hab request) haccount seat k⟩
      · simp only [Arbiter.arbitrateAt_of_ne_one hdepth, Arbiter.passThrough]
        exact ⟨c.decisions_passThrough, c.reports_none,
          h.setCall (c.countSuppressed hab) htables seat k⟩

/-- A table is changed in the same way in both sessions. -/
theorem onTable (h : c.Sessions s u) (k : Nat)
    (f : ProcessTable → Answer × ProcessTable × List Event)
    (hanswer : ∀ t t', (c.sameTables → t = t') →
      (f t).1.Alike c.decisions (fun x y => c.sameTables → x = y) (f t').1) :
    c.Steps (s.onTable k f) (u.onTable k f) := by
  rcases rel_cases (h.tables k) with ⟨ht, ht'⟩ | ⟨t, t', ht, ht', htables⟩
  · simp only [Session.onTable, ht, ht']
    exact h.refuse
  · simp only [Session.onTable, ht, ht']
    have hchanged : c.sameTables → (f t).2.1 = (f t').2.1 := fun hsame => by rw [htables hsame]
    exact ⟨hanswer t t' htables, c.reports_none, h.setTable hchanged k⟩

/-- A coupling outlasts every act. -/
theorem perform (h : c.Sessions s u) (act : Act) : c.Steps (s.perform act) (u.perform act) := by
  cases act with
  | arbitrate seat guard request =>
      cases guard with
      | none =>
          rw [Session.perform, Session.perform, h.guards]
          exact h.arbitrateAt ..
      | some guard =>
          simp only [Session.perform, h.guards]
          cases u.guards.find? guard with
          | none => exact h.refuse
          | some _ => exact h.arbitrateAt ..
  | tearDown seat =>
      simp only [Session.perform]
      rcases rel_cases (h.seats seat) with ⟨hs, hu⟩ | ⟨⟨a, k⟩, ⟨b, k'⟩, hs, hu, hab, hk⟩
      · simp only [hs, hu]
        exact h.refuse
      · simp only [hs, hu]
        exact ⟨rfl, c.reports_none,
          h.setSeat (x := ⟨_, k⟩) (y := ⟨_, k'⟩) ⟨c.tearDown hab, hk⟩ seat⟩
  | enter =>
      simp only [Session.perform, h.guards]
      exact ⟨rfl, c.reports_none, h.seats, h.tables, rfl⟩
  | leave guard =>
      simp only [Session.perform, h.guards]
      cases u.guards.find? guard with
      | none => exact h.refuse
      | some _ => exact ⟨rfl, c.reports_none, h.seats, h.tables, rfl⟩
  | register table pid parent =>
      rw [Session.perform, Session.perform]
      exact h.onTable table _ fun _ _ _ => rfl
  | record table pid cls bytes =>
      rw [Session.perform, Session.perform]
      exact h.onTable table _ fun _ _ _ => rfl
  | retire table root =>
      rw [Session.perform, Session.perform]
      exact h.onTable table _ fun _ _ htables hsame => by rw [htables hsame]

/-! ## Runs -/

/-- A coupling outlasts every run, act by act. -/
theorem run (h : c.Sessions s u) (acts : List Act) :
    List.Forall₂ c.Steps (s.run acts) (u.run acts) := by
  induction acts generalizing s u with
  | nil => exact .nil
  | cons act acts ih => exact .cons (h.perform act) (ih (h.perform act).session)

theorem after (h : c.Sessions s u) (acts : List Act) :
    c.Sessions (s.after acts) (u.after acts) := by
  induction acts generalizing s u with
  | nil => exact h
  | cons act acts ih => exact ih (h.perform act).session

/-- The tables are the same, if the coupling says so. -/
theorem tables_eq (h : c.Sessions s u) (hsame : c.sameTables) : s.tables = u.tables := by
  refine List.ext_getElem? fun k => ?_
  rcases rel_cases (h.tables k) with ⟨ht, ht'⟩ | ⟨t, t', ht, ht', htables⟩
  · rw [ht, ht']
  · rw [ht, ht', htables hsame]

/-- The entries of a list are related to themselves. -/
theorem rel_self {α : Type} {r : α → α → Prop} (hrefl : ∀ x, r x x) :
    (x : Option α) → Option.Rel r x x
  | none => .none
  | some x => .some (hrefl x)

/-- Two arbiters in a seat that is added to a session. -/
theorem addArbiter (hrefl : ∀ a, c.arbiters a a) {a b : Arbiter} (hab : c.arbiters a b)
    (s : Session) (shared : Bool) :
    c.Sessions (s.addArbiter a shared) (s.addArbiter b shared) := by
  have hseats (k i : Nat) :
      Option.Rel c.Seats (s.seats ++ [⟨a, k⟩])[i]? (s.seats ++ [⟨b, k⟩])[i]? := by
    rw [List.getElem?_append, List.getElem?_append]
    by_cases hi : i < s.seats.length
    · rw [if_pos hi, if_pos hi]
      exact rel_self (fun x => ⟨hrefl x.arbiter, rfl⟩) _
    · rw [if_neg hi, if_neg hi]
      cases i - s.seats.length with
      | zero => exact .some ⟨hab, rfl⟩
      | succ n => exact .none
  have htables (ts : List ProcessTable) (k : Nat) :
      Option.Rel (fun t t' => c.sameTables → t = t') ts[k]? ts[k]? :=
    rel_self (fun _ _ => rfl) _
  cases shared with
  | true => exact ⟨hseats _, htables _, rfl⟩
  | false => exact ⟨hseats _, htables _, rfl⟩

/-- What two arbiters that were added have come to after a run. -/
theorem exists_added {a b : Arbiter} {s : Session} {shared : Bool}
    (h : c.Sessions (s.addArbiter a shared) (s.addArbiter b shared)) (acts : List Act) :
    ∃ a' b' k, ((s.addArbiter a shared).after acts).seats[s.seats.length]? = some ⟨a', k⟩ ∧
      ((s.addArbiter b shared).after acts).seats[s.seats.length]? = some ⟨b', k⟩ ∧
      a'.SameJob a ∧ c.arbiters a' b' := by
  have hadded : ∃ k, (s.addArbiter a shared).Seats s.seats.length a k := by
    cases shared with
    | true => exact ⟨0, a, List.getElem?_concat_length, .refl a⟩
    | false => exact ⟨s.tables.length, a, List.getElem?_concat_length, .refl a⟩
  obtain ⟨k, hk⟩ := hadded
  obtain ⟨a', ha', hjob⟩ := (Session.keeps_after _ acts).seats _ _ _ hk
  rcases rel_cases ((h.after acts).seats s.seats.length) with
    ⟨hnone, -⟩ | ⟨x, ⟨b', k'⟩, hx, hb', hab, rfl⟩
  · rw [hnone] at ha'
    cases ha'
  · obtain rfl := Option.some.inj (hx.symm.trans ha')
    exact ⟨a', b', k, ha', hb', hjob, hab⟩

end Sessions

end Coupling

end AccessPolicy
