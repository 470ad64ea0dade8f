import AccessPolicy.Proofs.Bookkeeping
import AccessPolicy.Proofs.Callbacks
import AccessPolicy.Proofs.Reporting
import AccessPolicy.Proofs.Sums

/-!
# AccessPolicy.Proofs.Activity

What an arbiter says that it has done is what its callers and its sink have seen.

Every call counts once in each number that it concerns:

1. it was decided if its level was the only one of its thread, and else passed through;
2. it was denied, reported or a fault as its decision says;
3. its report was handed to the sink iff it was reported.

A fault is denied, what is denied is reported, and what is reported was decided.

* `stats_decideAt`, `lawful_call` — one call;
* `call_cases` — one move of a program, which is a call of the arbiter or leaves its
  numbers alone;
* `activity_exact` — all runs, and what they leave in a table that only the arbiter uses.
-/

namespace AccessPolicy

/-! ## Calls -/

/-- A call of an arbiter, as its caller and its sink see it. -/
structure Call where
  /-- Whether its level was the only one of its thread. -/
  sole : Bool
  decision : Decision
  /-- Whether a report was handed to the sink. -/
  handed : Bool
  /-- What was logged before that. -/
  events : List Event
  deriving DecidableEq, Repr

/-- Whether a call made a count start again from zero. -/
def Call.resets (c : Call) : Bool :=
  c.events.any fun
    | .countReset _ _ => true
    | _ => false

/-- What an arbiter has done in some calls. -/
def Stats.ofCalls (calls : List Call) : Stats where
  arbitrated := calls.countP (·.sole)
  suppressed := calls.countP (!·.sole)
  denied := calls.countP (!·.decision.allowed)
  reported := calls.countP (·.decision.reported)
  faults := calls.countP (·.decision.reason = .internalFault)

/-- What can be relied upon in a call. -/
structure Call.Lawful (c : Call) : Prop where
  passed : c.sole = false → c.decision = .passThrough
  handed : c.handed = c.decision.reported
  denied : c.decision.allowed = false → c.decision.reported = true
  fault : c.decision.reason = .internalFault → c.decision.allowed = false

namespace Stats

variable {calls : List Call}

theorem ofCalls_concat (calls : List Call) (c : Call) : ofCalls (calls ++ [c]) =
    { arbitrated := (ofCalls calls).arbitrated + c.sole.toNat
      suppressed := (ofCalls calls).suppressed + (!c.sole).toNat
      denied := (ofCalls calls).denied + (!c.decision.allowed).toNat
      reported := (ofCalls calls).reported + c.decision.reported.toNat
      faults := (ofCalls calls).faults +
        (decide (c.decision.reason = .internalFault)).toNat } := by
  simp only [ofCalls, countP_concat]

/-- Every call was decided or passed through. -/
theorem arbitrated_add_suppressed (calls : List Call) :
    (ofCalls calls).arbitrated + (ofCalls calls).suppressed = calls.length := by
  have hlength := List.length_eq_countP_add_countP (fun c : Call => c.sole) (l := calls)
  simp only [Bool.not_eq_true, Bool.decide_eq_false] at hlength
  exact hlength.symm

/-- Every report was handed to the sink. -/
theorem countP_handed (h : ∀ c ∈ calls, c.Lawful) :
    calls.countP (·.handed) = (ofCalls calls).reported :=
  List.countP_congr fun c hc => by rw [(h c hc).handed]

theorem faults_le_denied (h : ∀ c ∈ calls, c.Lawful) :
    (ofCalls calls).faults ≤ (ofCalls calls).denied :=
  List.countP_mono_left fun c hc hfault => by
    rw [(h c hc).fault (of_decide_eq_true hfault)]
    rfl

theorem denied_le_reported (h : ∀ c ∈ calls, c.Lawful) :
    (ofCalls calls).denied ≤ (ofCalls calls).reported :=
  List.countP_mono_left fun c hc hdenied => (h c hc).denied (by simpa using hdenied)

theorem reported_le_arbitrated (h : ∀ c ∈ calls, c.Lawful) :
    (ofCalls calls).reported ≤ (ofCalls calls).arbitrated :=
  List.countP_mono_left fun c hc hreported => by
    by_contra hsole
    rw [(h c hc).passed (by simpa using hsole)] at hreported
    cases hreported

/-- What was decided was denied or allowed. -/
theorem allowed_add_denied (h : ∀ c ∈ calls, c.Lawful) :
    calls.countP (fun c => c.sole && c.decision.allowed) + (ofCalls calls).denied =
      (ofCalls calls).arbitrated := by
  induction calls with
  | nil => rfl
  | cons c calls ih =>
      obtain ⟨hc, hcalls⟩ := List.forall_mem_cons.1 h
      have hrest := ih hcalls
      simp only [ofCalls, List.countP_cons] at hrest ⊢
      cases hsole : c.sole with
      | false => simp [hc.passed hsole, Decision.passThrough, hrest]
      | true => cases c.decision.allowed <;> simp <;> omega

end Stats

namespace Arbiter

/-! ## One call -/

/-- A call at a depth of entered levels. -/
def call (a : Arbiter) (depth : Nat) (t : ProcessTable) (request : Request) : Call :=
  let out := a.decideAt depth t request
  ⟨depth = 1, out.decision, out.report.isSome, out.events⟩

/-- A path is at fault iff the decision says so. -/
theorem isSome_judge (a : Arbiter) (request : Request) :
    (a.judge request).2.isSome = decide ((a.judge request).1.decision.reason = .internalFault) := by
  unfold judge
  split
  · rfl
  · cases a.tree.resolve request.path with
    | error e => rfl
    | ok found =>
        have hreason := Verdict.reason_ofResolution a.settings request found
        simp only [List.mem_cons, not_or] at hreason
        exact (decide_eq_false hreason.2.1).symm

variable {a : Arbiter} {calls : List Call}

/-- A call counts once in each number that it concerns. -/
theorem stats_decideAt (h : a.stats = .ofCalls calls) (depth : Nat) (t : ProcessTable)
    (request : Request) :
    (a.decideAt depth t request).arbiter.stats =
      .ofCalls (calls ++ [a.call depth t request]) := by
  rw [Stats.ofCalls_concat, ← h, call, decideAt]
  by_cases hdepth : depth = 1
  · simp [hdepth, count, isSome_judge]
  · simp [hdepth, passThrough, countSuppressed, Decision.passThrough]

theorem lawful_call (a : Arbiter) (depth : Nat) (t : ProcessTable) (request : Request) :
    (a.call depth t request).Lawful := by
  rw [call, decideAt]
  by_cases hdepth : depth = 1
  · simp only [hdepth, if_true]
    refine ⟨fun hpart => Bool.noConfusion hpart, ?_,
      fun hdenied => reported_judge (.inl hdenied), fun hfault => ?_⟩
    · cases (a.judge request).1.decision.reported <;> rfl
    · refine allowed_judge_of_reason ?_
      rw [hfault]
      decide
  · simp only [if_neg hdepth]
    exact ⟨fun _ => rfl, rfl, fun hdenied => Bool.noConfusion hdenied,
      fun hfault => Reason.noConfusion hfault⟩

/-- A call is counted in the table iff it is decided and allowed. -/
theorem table_decideAt (a : Arbiter) (depth : Nat) (t : ProcessTable) (request : Request) :
    (a.decideAt depth t request).table =
      if (a.call depth t request).sole && (a.call depth t request).decision.allowed then
        t.record request.process request.parent request.operation.ioClass request.bytes
      else t := by
  rw [call, decideAt]
  by_cases hdepth : depth = 1
  · simp [hdepth, account]
  · simp [hdepth, passThrough]

end Arbiter

/-! ## Operations in a table -/

namespace ProcessTable

open Tally

/-- The operations of all processes and classes. -/
def operations (t : ProcessTable) : Nat :=
  exactSum Tally.operations (t.tallies .read ++ t.tallies .write ++ t.tallies .other)

variable {t : ProcessTable}

/-- The count to which an operation is added has room for it iff it does not start afresh. -/
theorem fitTogether_of_not_resets {pid : UInt32} {cls : IoClass} {bytes : UInt64}
    (h : t.recordResets pid cls bytes = false) :
    FitTogether [((t.find? pid).getD (.fresh pid)).counters.get cls, ⟨1, bytes⟩] := by
  have hcount : ((t.counters? pid).getD .zero).get cls =
      ((t.find? pid).getD (.fresh pid)).counters.get cls := by
    rw [counters?]
    cases t.find? pid <;> rfl
  rw [recordResets, record_eq_add, hcount, Bool.not_eq_false'] at h
  exact fits_iff_fitTogether.1 h

/-- What is noted of a process adds its operations, where its counts have room. -/
theorem Distinct.operations_noted (h : t.Distinct) (pid : UInt32) (note : Note)
    (hfit : ∀ cls, FitTogether
      (((t.find? pid).getD (.fresh pid)).counters.get cls :: Note.tallies cls [note])) :
    (t.alter pid note.apply).operations =
      t.operations + exactSum Tally.operations
        (Note.tallies .read [note] ++ Note.tallies .write [note] ++ Note.tallies .other [note]) := by
  have hclass (cls : IoClass) := (h.sameSum_noted pid (hfit cls)).operations
  simp only [exactSum_append] at hclass
  simp only [operations, exactSum_append, hclass]
  omega

theorem Distinct.operations_record (h : t.Distinct) {pid : UInt32} {cls : IoClass}
    {bytes : UInt64} (hroom : t.recordResets pid cls bytes = false) (parent : Option UInt32) :
    (t.record pid parent cls bytes).operations = t.operations + 1 := by
  refine (h.operations_noted pid ⟨parent, some (cls, bytes)⟩ fun c => ?_).trans ?_
  · by_cases hc : cls = c
    · subst hc
      simpa [Note.tallies] using fitTogether_of_not_resets hroom
    · simpa [Note.tallies, hc] using fitTogether_singleton _
  · cases cls <;> rfl

theorem Distinct.operations_register (h : t.Distinct) (pid : UInt32) (parent : Option UInt32) :
    (t.register pid parent).operations = t.operations :=
  h.operations_noted pid ⟨parent, none⟩ fun _ => fitTogether_singleton _

theorem Distinct.record (h : t.Distinct) (pid : UInt32) (parent : Option UInt32) (cls : IoClass)
    (bytes : UInt64) : (t.record pid parent cls bytes).Distinct :=
  h.alter (Note.pid_apply ⟨parent, some (cls, bytes)⟩)

theorem Distinct.register (h : t.Distinct) (pid : UInt32) (parent : Option UInt32) :
    (t.register pid parent).Distinct :=
  h.alter (Note.pid_apply ⟨parent, none⟩)

end ProcessTable

/-- A call adds one operation to its table if it is decided and allowed, unless a count starts
afresh. -/
theorem Arbiter.operations_decideAt {a : Arbiter} {depth : Nat} {t : ProcessTable}
    {request : Request} (h : t.Distinct)
    (hroom : (a.call depth t request).resets = false) :
    (a.decideAt depth t request).table.Distinct ∧
      (a.decideAt depth t request).table.operations = t.operations +
        [a.call depth t request].countP fun c => c.sole && c.decision.allowed := by
  rw [table_decideAt]
  cases hcounted : (a.call depth t request).sole && (a.call depth t request).decision.allowed with
  | false => exact ⟨h, by simp [hcounted]⟩
  | true =>
      obtain ⟨hsole, hallowed⟩ := Bool.and_eq_true_iff.1 hcounted
      have hdepth : depth = 1 := of_decide_eq_true hsole
      have hresets : t.recordResets request.process request.operation.ioClass request.bytes =
          false := by
        refine Bool.eq_false_iff.2 fun hresets => Bool.eq_false_iff.1 hroom ?_
        simp only [call, decideAt, hdepth, if_true] at hallowed
        simp [Call.resets, call, decideAt, hdepth, verdictEvents, hallowed, hresets]
      exact ⟨h.record .., (h.operations_record hresets _).trans (by simp [hcounted])⟩

/-! ## Programs -/

theorem Arbiter.stats_tearDown (a : Arbiter) : a.tearDown.1.stats = a.stats := by
  unfold tearDown
  split <;> rfl

/-- Whether a move neither records an operation in a table nor retires a family there. -/
def Move.spares (table : Nat) : Move → Bool
  | .act (.record k _ _ _) => k ≠ table
  | .act (.retire k _) => k ≠ table
  | _ => true

namespace Program

/-- The call of the arbiter in a seat that a move is. -/
def call? (p : Program) (seat i : Nat) : Move → Option Call
  | .act (.arbitrate j guard request) =>
      let step := p.act i (.arbitrate j guard request)
      match step.answer with
      | .decision d =>
          if j = seat then
            some ⟨(p.threads i).levels guard = 1, d, step.report.isSome, step.events⟩
          else none
      | _ => none
  | _ => none

/-- The calls of the arbiter in a seat, in order. -/
def calls (p : Program) (seat : Nat) : List (Nat × Move) → List Call
  | [] => []
  | m :: moves => (p.call? seat m.1 m.2).toList ++ (p.step m.1 m.2).calls seat moves

variable {p : Program} {i seat k : Nat} {a : Arbiter} {t : ProcessTable}

/-- A request to an arbiter is a call of it, unless it is refused. -/
theorem call?_arbitrate {guard : Option Nat} (hseat : p.seats[seat]? = some ⟨a, k⟩)
    (htable : p.tables[k]? = some t)
    (hheld : (p.threads i).holds guard = true) (request : Request)
    (seat' : Nat) :
    p.call? seat' i (.act (.arbitrate seat guard request)) =
      if seat = seat' then some (a.call ((p.threads i).levels guard) t request) else none := by
  simp only [call?, act_arbitrate hseat htable hheld]
  rfl

theorem call?_of_refused {guard : Option Nat} {request : Request}
    (h : p.act i (.arbitrate seat guard request) = (p.session i).refuse) (seat' : Nat) :
    p.call? seat' i (.act (.arbitrate seat guard request)) = none := by
  simp only [call?, h, Session.refuse]

/-- An act that is no request does to the arbiters what it does in a session. -/
theorem seats_act (p : Program) (i : Nat) {act : Act} (hact : act.isRequest = false) :
    (p.act i act).session.seats = ((p.session i).perform act).session.seats := by
  cases act with
  | arbitrate j guard request => cases hact
  | leave guard =>
      simp only [Program.act, Session.perform]
      split
      · split <;> rfl
      · rfl
  | _ => rfl

/-- An act that is no request leaves the numbers of all arbiters alone. -/
theorem stats_act (hseat : p.seats[seat]? = some ⟨a, k⟩) (i : Nat) {act : Act}
    (hact : act.isRequest = false) :
    ∃ b, (p.act i act).session.seats[seat]? = some ⟨b, k⟩ ∧ b.stats = a.stats := by
  have hseats := seats_act p i hact
  obtain ⟨b, hb, hkept | rfl⟩ := Session.seat_perform (s := p.session i) hseat hact
  · exact ⟨b, by rw [hseats, hb], by rw [hkept]⟩
  · exact ⟨_, by rw [hseats, hb], a.stats_tearDown⟩

/-- A sink that returns has kept something, and leaves its arbiter alone otherwise. -/
theorem seat_finish (hseat : p.seats[seat]? = some ⟨a, k⟩) (i : Nat) (keep : Inbox → Inbox) :
    ∃ b, (p.step i (.finish keep)).seats[seat]? = some ⟨b, k⟩ ∧
      (b = a ∨ b = { a with inbox := keep a.inbox }) := by
  rw [step]
  split
  · exact ⟨a, hseat, .inl rfl⟩
  · rename_i d ds _
    by_cases hd : d.seat = seat
    · refine ⟨_, ?_, .inr rfl⟩
      simp only [resume, Session.take, session, List.getElem?_modify, hd, hseat, if_true]
      rfl
    · refine ⟨a, ?_, .inl rfl⟩
      simp only [resume, Session.take, session, List.getElem?_modify, if_neg hd, hseat]
      rfl

/-- A request is a call of an arbiter, or it leaves it alone. -/
theorem seat_request (hseat : p.seats[seat]? = some ⟨a, k⟩) (i j : Nat) (guard : Option Nat)
    (request : Request) :
    (∃ depth t, p.tables[k]? = some t ∧
      p.call? seat i (.act (.arbitrate j guard request)) = some (a.call depth t request) ∧
      (p.step i (.act (.arbitrate j guard request))).seats[seat]? =
        some ⟨(a.decideAt depth t request).arbiter, k⟩ ∧
      (p.step i (.act (.arbitrate j guard request))).tables[k]? =
        some (a.decideAt depth t request).table) ∨
    (p.call? seat i (.act (.arbitrate j guard request)) = none ∧
      (p.step i (.act (.arbitrate j guard request))).seats[seat]? = some ⟨a, k⟩) := by
  rcases p.act_arbitrate_cases i j guard request with hrefused | ⟨hheld, b, k', t, hb, ht⟩
  · refine .inr ⟨call?_of_refused hrefused seat, ?_⟩
    rw [seats_step_act, hrefused]
    exact hseat
  · have hcall := call?_arbitrate hb ht hheld request seat
    have hact := act_arbitrate hb ht hheld request
    by_cases hj : j = seat
    · subst hj
      obtain ⟨rfl, rfl⟩ := Seat.mk.inj (Option.some.inj (hb.symm.trans hseat))
      refine .inl ⟨_, t, ht, hcall.trans (if_pos rfl), ?_, ?_⟩
      · rw [seats_step_act, hact]
        exact List.getElem?_set_self (List.getElem?_eq_some_iff.1 hseat).1
      · rw [tables_step_act, hact]
        exact List.getElem?_set_self (List.getElem?_eq_some_iff.1 ht).1
    · refine .inr ⟨hcall.trans (if_neg hj), ?_⟩
      rw [seats_step_act, hact]
      exact (List.getElem?_set_ne hj).trans hseat

/-- A move is a call of an arbiter, or it leaves its numbers alone. -/
theorem call_cases (hseat : p.seats[seat]? = some ⟨a, k⟩) (i : Nat) (m : Move) :
    (∃ depth t request, p.tables[k]? = some t ∧
      p.call? seat i m = some (a.call depth t request) ∧
      (p.step i m).seats[seat]? = some ⟨(a.decideAt depth t request).arbiter, k⟩ ∧
      (p.step i m).tables[k]? = some (a.decideAt depth t request).table) ∨
    (p.call? seat i m = none ∧
      ∃ b, (p.step i m).seats[seat]? = some ⟨b, k⟩ ∧ b.stats = a.stats) := by
  cases m with
  | finish keep =>
      obtain ⟨b, hb, rfl | rfl⟩ := seat_finish hseat i keep
      · exact .inr ⟨rfl, b, hb, rfl⟩
      · exact .inr ⟨rfl, _, hb, rfl⟩
  | act act =>
      cases act with
      | arbitrate j guard request =>
          rcases seat_request hseat i j guard request with
            ⟨depth, t, ht, hcall, hseat', htable'⟩ | ⟨hcall, hseat'⟩
          · exact .inl ⟨depth, t, request, ht, hcall, hseat', htable'⟩
          · exact .inr ⟨hcall, a, hseat', rfl⟩
      | tearDown j => exact .inr ⟨rfl, stats_act hseat i rfl⟩
      | enter => exact .inr ⟨rfl, stats_act hseat i rfl⟩
      | leave guard => exact .inr ⟨rfl, stats_act hseat i rfl⟩
      | register table pid parent => exact .inr ⟨rfl, stats_act hseat i rfl⟩
      | record table pid cls bytes => exact .inr ⟨rfl, stats_act hseat i rfl⟩
      | retire table root => exact .inr ⟨rfl, stats_act hseat i rfl⟩

/-- Only the arbiter in a seat writes to a table. -/
def SoleWriter (p : Program) (seat table : Nat) : Prop :=
  ∀ j ≠ seat, (p.seats[j]?).map (·.table) ≠ some table

theorem map_table_set {seats : List Seat} {x : Seat} {j : Nat} (h : seats[j]? = some x)
    (b : Arbiter) : (seats.set j ⟨b, x.table⟩).map (·.table) = seats.map (·.table) := by
  have htable : (seats.map (·.table))[j]? = some x.table := by rw [List.getElem?_map, h]; rfl
  obtain ⟨hlt, hself⟩ := List.getElem?_eq_some_iff.1 htable
  rw [List.map_set, ← hself, List.set_getElem_self hlt]

/-- Every arbiter writes to its table for good. -/
theorem map_table_step (p : Program) (i : Nat) (m : Move) :
    (p.step i m).seats.map (·.table) = p.seats.map (·.table) := by
  cases m with
  | finish keep =>
      rw [step]
      split
      · rfl
      · refine List.ext_getElem? fun j => ?_
        simp only [resume, Session.take, session, List.getElem?_map, List.getElem?_modify]
        cases p.seats[j]? with
        | none => rfl
        | some x =>
            simp only [Option.map_eq_map, Option.map_some, Option.some.injEq]
            split <;> rfl
  | act act =>
      rw [seats_step_act]
      cases act with
      | arbitrate j guard request =>
          rcases p.act_arbitrate_cases i j guard request with
            hrefused | ⟨hheld, b, k', t, hb, ht⟩
          · rw [hrefused]
            rfl
          · rw [act_arbitrate hb ht hheld]
            exact map_table_set hb _
      | tearDown j =>
          simp only [Program.act, Session.perform]
          split
          · rfl
          · rename_i hj
            exact map_table_set hj _
      | enter => rfl
      | leave guard =>
          simp only [Program.act, Session.perform]
          split
          · rfl
          · split <;> rfl
      | register table pid parent => exact congrArg _ ((p.session i).seats_onTable ..)
      | record table pid cls bytes => exact congrArg _ ((p.session i).seats_onTable ..)
      | retire table root => exact congrArg _ ((p.session i).seats_onTable ..)

theorem SoleWriter.step (h : p.SoleWriter seat k) (i : Nat) (m : Move) :
    (p.step i m).SoleWriter seat k := by
  intro j hj
  rw [← List.getElem?_map, map_table_step, List.getElem?_map]
  exact h j hj

/-- In a table to which only one arbiter writes, a move that is no call of it and spares the
table registers a process at most. -/
theorem table_step (htable : p.tables[k]? = some t) (hsole : p.SoleWriter seat k) {m : Move}
    (hspares : m.spares k = true) (hnone : p.call? seat i m = none) :
    (p.step i m).tables[k]? = some t ∨
      ∃ pid parent, (p.step i m).tables[k]? = some (t.register pid parent) := by
  have hsession : (p.session i).tables[k]? = some t := htable
  cases m with
  | finish keep =>
      rw [step]
      split <;> exact .inl htable
  | act act =>
      rw [tables_step_act]
      cases act with
      | arbitrate j guard request =>
          refine .inl ?_
          rcases p.act_arbitrate_cases i j guard request with
            hrefused | ⟨hheld, b, k', t', hb, ht'⟩
          · rw [hrefused]
            exact htable
          · by_cases hj : j = seat
            · rw [call?_arbitrate hb ht' hheld, if_pos hj] at hnone
              cases hnone
            · have hk : k' ≠ k := by
                rintro rfl
                exact hsole j hj (by rw [hb]; rfl)
              rw [act_arbitrate hb ht' hheld]
              exact (List.getElem?_set_ne hk).trans htable
      | tearDown j =>
          refine .inl ?_
          simp only [Program.act, Session.perform]
          split <;> exact htable
      | enter => exact .inl htable
      | leave guard =>
          refine .inl ?_
          simp only [Program.act, Session.perform]
          split
          · exact htable
          · split <;> exact htable
      | register j pid parent =>
          have hchanged := Session.getElem?_tables_onTable hsession j
            fun t => (.done, t.register pid parent, [])
          by_cases hj : j = k
          · exact .inr ⟨pid, parent, hchanged.trans (by rw [if_pos hj])⟩
          · exact .inl (hchanged.trans (by rw [if_neg hj]))
      | record j pid cls bytes =>
          have hj : j ≠ k := of_decide_eq_true hspares
          exact .inl ((Session.getElem?_tables_onTable hsession j _).trans (by rw [if_neg hj]))
      | retire j root =>
          have hj : j ≠ k := of_decide_eq_true hspares
          exact .inl ((Session.getElem?_tables_onTable hsession j _).trans (by rw [if_neg hj]))

theorem lawful_of_call? {m : Move} {c : Call} (h : p.call? seat i m = some c) : c.Lawful := by
  cases m with
  | finish keep => cases h
  | act act =>
      cases act with
      | arbitrate j guard request =>
          rcases p.act_arbitrate_cases i j guard request with hrefused | ⟨hheld, a, k, t, ha, ht⟩
          · rw [call?_of_refused hrefused] at h
            cases h
          · rw [call?_arbitrate ha ht hheld] at h
            split at h
            · obtain rfl := Option.some.inj h
              exact a.lawful_call ..
            · cases h
      | _ => cases h

/-! ## Runs -/

theorem lawful_calls (p : Program) (seat : Nat) (moves : List (Nat × Move)) :
    ∀ c ∈ p.calls seat moves, c.Lawful := by
  induction moves generalizing p with
  | nil => exact fun c hc => absurd hc List.not_mem_nil
  | cons m moves ih =>
      intro c hc
      rcases List.mem_append.1 hc with hfirst | hrest
      · exact lawful_of_call? (Option.mem_toList.1 hfirst)
      · exact ih _ c hrest

/-- After some moves, an arbiter has counted their calls on top of those before. -/
theorem stats_after {before : List Call} (hseat : p.seats[seat]? = some ⟨a, k⟩)
    (hstats : a.stats = .ofCalls before) (moves : List (Nat × Move)) :
    ∃ b, (p.after moves).seats[seat]? = some ⟨b, k⟩ ∧
      b.stats = .ofCalls (before ++ p.calls seat moves) := by
  induction moves generalizing p a before with
  | nil => exact ⟨a, hseat, by rw [calls, List.append_nil, hstats]⟩
  | cons m moves ih =>
      rw [calls, ← List.append_assoc]
      rcases call_cases hseat m.1 m.2 with
        ⟨depth, t, request, -, hcall, hseat', -⟩ | ⟨hcall, b, hseat', hsame⟩
      · rw [hcall]
        exact ih hseat' (Arbiter.stats_decideAt hstats depth t request)
      · rw [hcall, Option.toList_none, List.append_nil]
        exact ih hseat' (hsame.trans hstats)

/-- After some moves, a table to which only one arbiter writes has counted the calls that
were decided and allowed. -/
theorem operations_after (hseat : p.seats[seat]? = some ⟨a, k⟩) (htable : p.tables[k]? = some t)
    (hdistinct : t.Distinct) (hsole : p.SoleWriter seat k) (moves : List (Nat × Move))
    (hspares : ∀ m ∈ moves, m.2.spares k = true)
    (hroom : ∀ c ∈ p.calls seat moves, c.resets = false) :
    ∃ t', (p.after moves).tables[k]? = some t' ∧ t'.operations =
      t.operations + (p.calls seat moves).countP fun c => c.sole && c.decision.allowed := by
  induction moves generalizing p a t with
  | nil => exact ⟨t, htable, rfl⟩
  | cons m moves ih =>
      obtain ⟨hm, hmoves⟩ := List.forall_mem_cons.1 hspares
      rw [calls] at hroom ⊢
      obtain ⟨hfirst, hrest⟩ := List.forall_mem_append.1 hroom
      rw [List.countP_append]
      have hnext {b : Arbiter} {t' : ProcessTable} {n : Nat}
          (hb : (p.step m.1 m.2).seats[seat]? = some ⟨b, k⟩)
          (ht' : (p.step m.1 m.2).tables[k]? = some t') (hdistinct' : t'.Distinct)
          (hcount : t'.operations = t.operations + n) :
          ∃ t', (p.after (m :: moves)).tables[k]? = some t' ∧ t'.operations = t.operations + (n +
            ((p.step m.1 m.2).calls seat moves).countP fun c => c.sole && c.decision.allowed) := by
        obtain ⟨t'', ht'', hcounted⟩ := ih hb ht' hdistinct' (hsole.step m.1 m.2) hmoves hrest
        exact ⟨t'', ht'', by rw [hcounted, hcount, Nat.add_assoc]⟩
      rcases call_cases hseat m.1 m.2 with
        ⟨depth, t', request, ht', hcall, hseat', htable'⟩ | ⟨hcall, b, hseat', -⟩
      · obtain rfl := Option.some.inj (ht'.symm.trans htable)
        rw [hcall] at hfirst ⊢
        obtain ⟨hdistinct', hcount⟩ := Arbiter.operations_decideAt hdistinct
          (hfirst _ List.mem_cons_self)
        exact hnext hseat' htable' hdistinct' hcount
      · rw [hcall]
        rcases table_step htable hsole hm hcall with hsame | ⟨pid, parent, hregistered⟩
        · exact hnext hseat' hsame hdistinct rfl
        · exact hnext hseat' hregistered (hdistinct.register pid parent)
            (hdistinct.operations_register pid parent)

/-- **Activity**: take an arbiter that has done nothing yet, in a program whose sinks do what
they like while they are handed a report, and may panic.  After any moves, and so also while
a sink has a report in hand:

1. its numbers are those of the calls that were made of it, each counted once, and every
   report that it counts was handed to the sink;
2. no more calls are faults than are denied, no more are denied than reported, and no more
   are reported than decided;
3. if its table was empty, and nothing was done with it but to register processes and to
   count what this arbiter allows, and no count started afresh, the operations in the table
   are as many as the calls that were decided and not denied.

Sessions are such programs, with the sinks that their arbiters have. -/
theorem activity_exact {tree : ScopeTree} {settings : Settings} {sink : Sink}
    (hseat : p.seats[seat]? = some ⟨.create tree settings sink, k⟩)
    (moves : List (Nat × Move)) :
    ∃ b, (p.after moves).seats[seat]? = some ⟨b, k⟩ ∧
      b.stats = .ofCalls (p.calls seat moves) ∧
      b.stats.reported = (p.calls seat moves).countP (·.handed) ∧
      b.stats.arbitrated + b.stats.suppressed = (p.calls seat moves).length ∧
      b.stats.faults ≤ b.stats.denied ∧ b.stats.denied ≤ b.stats.reported ∧
      b.stats.reported ≤ b.stats.arbitrated ∧
      (p.tables[k]? = some ∅ → p.SoleWriter seat k → (∀ m ∈ moves, m.2.spares k = true) →
        (∀ c ∈ p.calls seat moves, c.resets = false) →
        ∃ t, (p.after moves).tables[k]? = some t ∧
          t.operations + b.stats.denied = b.stats.arbitrated) ∧
      ∀ s acts, p = .ofSession s → moves = sessionMoves s acts →
        p.after moves = .ofSession (s.after acts) := by
  have hfresh : (Arbiter.create tree settings sink).stats = .ofCalls [] := rfl
  obtain ⟨b, hb, hstats⟩ := stats_after hseat hfresh moves
  have hlawful := p.lawful_calls seat moves
  rw [List.nil_append] at hstats
  refine ⟨b, hb, ?_⟩
  rw [hstats]
  refine ⟨rfl, (Stats.countP_handed hlawful).symm, Stats.arbitrated_add_suppressed _,
    Stats.faults_le_denied hlawful, Stats.denied_le_reported hlawful,
    Stats.reported_le_arbitrated hlawful, fun htable hsole hspares hroom => ?_, ?_⟩
  · obtain ⟨t, ht, hcounted⟩ := operations_after hseat htable ProcessTable.distinct_empty hsole
      moves hspares hroom
    have hempty : (∅ : ProcessTable).operations = 0 := rfl
    refine ⟨t, ht, ?_⟩
    rw [hcounted, hempty, Nat.zero_add]
    exact Stats.allowed_add_denied hlawful
  · rintro s acts rfl rfl
    exact after_sessionMoves s acts

/-- The sink of the arbiter has a report in hand.  A call that it makes is passed through, and
one of another thread is a fault; its report is lost in a panic. -/
def callbackMoves : List (Nat × Move) :=
  [(0, .act (.register 0 40 none)),
    (0, .act (.arbitrate 0 none ⟨"/src", .read, 40, none, 9, true⟩)),
    (0, .act (.arbitrate 0 none ScopeTree.sampleRequest)),
    (0, .act (.arbitrate 0 none ⟨"src", .read, 40, none, 9, true⟩)),
    (1, .act (.arbitrate 0 none ⟨"src", .read, 40, none, 9, true⟩)), (1, .finish id)]

/-- Of these four calls one is allowed and two are denied. -/
theorem activity_exact_sample :
    ∃ b t, ((ofSession Session.echoingSession).after callbackMoves).seats[0]? = some ⟨b, 0⟩ ∧
      b.stats = ⟨3, 1, 2, 2, 1⟩ ∧
      ((ofSession Session.echoingSession).after callbackMoves).tables[0]? = some t ∧
      t.operations = 1 := by
  have hseat : (ofSession Session.echoingSession).seats[0]? =
      some ⟨.create ScopeTree.sampleTree ⟨7, .strict, false⟩
        (.responding fun _ r => [⟨r.path, .write, r.process, none, 48, true⟩]), 0⟩ := rfl
  obtain ⟨b, hb, hstats, -, -, -, -, -, htable, -⟩ := activity_exact hseat callbackMoves
  have hcalls : Stats.ofCalls ((ofSession Session.echoingSession).calls 0 callbackMoves) =
      ⟨3, 1, 2, 2, 1⟩ := by
    decide +kernel
  have hroom : ∀ c ∈ (ofSession Session.echoingSession).calls 0 callbackMoves,
      c.resets = false := by
    decide +kernel
  have hsole : (ofSession Session.echoingSession).SoleWriter 0 0 := by
    rintro (_ | j) hj
    · exact absurd rfl hj
    · exact (Option.some_ne_none 0).symm
  rw [hcalls] at hstats
  obtain ⟨t, ht, hcounted⟩ := htable rfl hsole (by decide) hroom
  rw [hstats] at hcounted
  exact ⟨b, t, hb, hstats, ht, Nat.add_right_cancel hcounted⟩

end Program

end AccessPolicy
