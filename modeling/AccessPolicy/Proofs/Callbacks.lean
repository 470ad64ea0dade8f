import AccessPolicy.Proofs.Runs
import Mathlib.Data.List.Basic

/-!
# AccessPolicy.Proofs.Callbacks

Runs in which a sink may do anything while it is handed a report.

A program has several threads that use the same arbiters and tables.  A call that is to be
reported takes two moves of its thread:

1. it is decided and counted, and its report is handed to the sink;
2. the sink returns or panics.

In between, the thread may move as at any other time, and these are the moves of the sink:
it may make requests of any arbiter, register processes, enter levels and give them up.
Other threads go on as well.  Only the guard of a call under way cannot be given up, for it
is lent to the call.

* `arbitrateAt_eq_decideAt` — a call is decided and counted before it is reported;
* `act_of_levels_ne_one` — below another level a call is passed through;
* `after_reaction`, `after_sessionMoves` — with the sinks that arbiters have, the acts of a
  session are moves of a thread.
-/

namespace AccessPolicy

/-! ## Calls before they are reported -/

namespace Arbiter

/-- Decide a request made at a depth of entered levels, and count it.  The report, if there
is one, has just been handed to the sink. -/
def decideAt (depth : Nat) (a : Arbiter) (t : ProcessTable) (request : Request) : Outcome :=
  if depth = 1 then
    let (v, fault) := a.judge request
    ⟨v.decision, if v.decision.reported then some (a.report request v) else none,
      a.count v.decision fault, account v.decision request t,
      verdictEvents v.decision fault request t⟩
  else passThrough a t

theorem decideAt_of_ne_one {depth : Nat} (h : depth ≠ 1) (a : Arbiter) (t : ProcessTable)
    (request : Request) : a.decideAt depth t request = passThrough a t := if_neg h

/-- A call is decided and counted before its report, if there is one, is delivered. -/
theorem arbitrateAt_eq_decideAt (depth : Nat) (a : Arbiter) (t : ProcessTable)
    (request : Request) :
    a.arbitrateAt depth t request =
      match a.decideAt depth t request with
      | ⟨d, none, counted, table, events⟩ => ⟨d, none, counted, table, events⟩
      | ⟨d, some r, counted, table, events⟩ =>
          let (after, table, more) := deliver (fun a t _ => passThrough a t) counted table r
          ⟨d, some r, after, table, events ++ more⟩ := by
  by_cases hdepth : depth = 1
  · subst hdepth
    rw [arbitrateAt_one, arbitrateOutermost, decideAt, if_pos rfl]
    dsimp only
    cases (a.judge request).1.decision.reported <;> rfl
  · rw [arbitrateAt_of_ne_one hdepth, decideAt_of_ne_one hdepth]
    rfl

end Arbiter

/-- The requests that a sink makes while it is handed a report. -/
def Sink.requests : Sink → Inbox → Report → List Request
  | .responding requests, inbox, r => requests inbox r
  | _, _, _ => []

/-- What a sink adds to what has arrived, after some requests that were passed through. -/
def Sink.keep : Sink → Report → Nat → Inbox → Inbox
  | .responding _, r, n, inbox =>
      { inbox with
        reports := inbox.reports ++ [r]
        nested := inbox.nested ++ [List.replicate n .passThrough] }
  | _, _, _, inbox => inbox

/-- To deliver a report is to pass through what the sink requests, and to let it keep the
report. -/
theorem Arbiter.deliver_eq (a : Arbiter) (t : ProcessTable) (r : Report) :
    (deliver (fun a t _ => passThrough a t) a t r).1 =
      { a.suppress (a.sink.requests a.inbox r).length with
        inbox := a.sink.keep r (a.sink.requests a.inbox r).length a.inbox } := by
  unfold deliver
  cases hsink : a.sink with
  | responding requests =>
      simp only [callEach_passThrough]
      rfl
  | panicking payload => rfl
  | logging => rfl

/-! ## Threads -/

/-- A call gives up the level of its own that it has entered. -/
@[simp] theorem Guards.ended_begun (g : Guards) (guard : Option Nat) :
    (g.begun guard).ended guard = g := by
  cases guard <;> rfl

/-- A call whose report is in the hands of the sink: the seat of its arbiter and the guard
of its level.  A call without a guard has entered a level of its own. -/
structure Delivery where
  seat : Nat
  guard : Option Nat
  deriving DecidableEq, Repr

/-- A thread: the guards that it holds and the calls that are under way, the last one
first. -/
structure Thread where
  guards : Guards
  deliveries : List Delivery

namespace Thread

/-- A thread that has done nothing yet. -/
def fresh : Thread := ⟨.none, []⟩

/-- Number of calls under way that have entered a level of their own. -/
def ownLevels (t : Thread) : Nat := t.deliveries.countP (·.guard.isNone)

/-- The depth of the thread when a request has entered its level. -/
def levels (t : Thread) (guard : Option Nat) : Nat := (t.guards.begun guard).depth

/-- Whether the guard of a request, if it has one, is held. -/
def holds (t : Thread) (guard : Option Nat) : Bool := guard.all fun g => (t.guards.find? g).isSome

/-- Whether the level of a guard is that of a call under way. -/
def uses (t : Thread) (guard : Nat) : Bool := t.deliveries.any (·.guard = some guard)

end Thread

namespace Session

/-- Have a request decided at a depth of entered levels, up to the delivery of its report. -/
def decideAt (s : Session) (seat depth : Nat) (request : Request) : Step :=
  match s.seats[seat]? with
  | none => s.refuse
  | some ⟨arbiter, table⟩ =>
      match s.tables[table]? with
      | none => s.refuse
      | some t =>
          let out := arbiter.decideAt depth t request
          ⟨.decision out.decision, out.report,
            { s with
              seats := s.seats.set seat ⟨out.arbiter, table⟩
              tables := s.tables.set table out.table },
            out.events⟩

variable {s : Session} {seat k : Nat} {a : Arbiter} {t : ProcessTable}

theorem decideAt_eq (hseat : s.seats[seat]? = some ⟨a, k⟩) (htable : s.tables[k]? = some t)
    (depth : Nat) (request : Request) :
    s.decideAt seat depth request =
      let out := a.decideAt depth t request
      ⟨.decision out.decision, out.report,
        { s with
          seats := s.seats.set seat ⟨out.arbiter, k⟩
          tables := s.tables.set k out.table },
        out.events⟩ := by
  rw [decideAt, hseat]
  simp only [htable]

theorem arbitrateAt_eq (hseat : s.seats[seat]? = some ⟨a, k⟩) (htable : s.tables[k]? = some t)
    (depth : Nat) (request : Request) :
    s.arbitrateAt seat depth request =
      let out := a.arbitrateAt depth t request
      ⟨.decision out.decision, out.report,
        { s with
          seats := s.seats.set seat ⟨out.arbiter, k⟩
          tables := s.tables.set k out.table },
        out.events⟩ := by
  rw [arbitrateAt, hseat]
  simp only [htable]

/-- A request is refused where there is no arbiter or no table, and else there are both. -/
theorem refuses_or_decides (s : Session) (seat : Nat) :
    (∀ depth request, s.decideAt seat depth request = s.refuse ∧
      s.arbitrateAt seat depth request = s.refuse) ∨
    ∃ a k t, s.seats[seat]? = some ⟨a, k⟩ ∧ s.tables[k]? = some t := by
  cases hseat : s.seats[seat]? with
  | none =>
      refine .inl fun depth request => ?_
      rw [decideAt, arbitrateAt, hseat]
      exact ⟨rfl, rfl⟩
  | some x =>
      obtain ⟨a, k⟩ := x
      cases htable : s.tables[k]? with
      | none =>
          refine .inl fun depth request => ?_
          rw [decideAt, arbitrateAt, hseat]
          simp only [htable, and_self]
      | some t => exact .inr ⟨a, k, t, rfl, htable⟩

end Session

/-! ## Programs -/

/-- The last of some entries counts once if it is counted at all. -/
theorem countP_concat {α : Type} (f : α → Bool) (xs : List α) (x : α) :
    (xs ++ [x]).countP f = xs.countP f + (f x).toNat := by
  rw [List.countP_append, List.countP_singleton]
  cases f x <;> rfl

/-- Several threads that use the same tables and arbiters. -/
structure Program where
  tables : List ProcessTable
  seats : List Seat
  threads : Nat → Thread

/-- A move of a thread. -/
inductive Move where
  /-- An act, up to the delivery of its report. -/
  | act (act : Act)
  /-- The sink to which a report was last handed returns or panics; meanwhile it may have
  kept something. -/
  | finish (keep : Inbox → Inbox)

namespace Program

/-- A session as a program with one thread. -/
def ofSession (s : Session) : Program :=
  ⟨s.tables, s.seats, fun i => if i = 0 then ⟨s.guards, []⟩ else .fresh⟩

/-- The program as a session on one of its threads. -/
def session (p : Program) (i : Nat) : Session := ⟨p.tables, p.seats, (p.threads i).guards⟩

/-- The program after a session on one of its threads. -/
def resume (p : Program) (i : Nat) (s : Session) (ds : List Delivery) : Program :=
  ⟨s.tables, s.seats, Function.update p.threads i ⟨s.guards, ds⟩⟩

/-- What an act of a thread does, up to the delivery of its report. -/
def act (p : Program) (i : Nat) : Act → Step
  | .arbitrate seat guard request =>
      if (p.threads i).holds guard then
        (p.session i).decideAt seat ((p.threads i).levels guard) request
      else (p.session i).refuse
  | .leave guard =>
      if (p.threads i).uses guard then (p.session i).refuse
      else (p.session i).perform (.leave guard)
  | act => (p.session i).perform act

/-- The delivery that an act begins. -/
def begun? (step : Step) : Act → Option Delivery
  | .arbitrate seat guard _ => step.report.map fun _ => ⟨seat, guard⟩
  | _ => none

/-- The program after a move. -/
def step (p : Program) (i : Nat) : Move → Program
  | .act act =>
      let s := (p.act i act).session
      match begun? (p.act i act) act with
      | none => p.resume i s (p.threads i).deliveries
      | some d =>
          p.resume i { s with guards := s.guards.begun d.guard } (d :: (p.threads i).deliveries)
  | .finish keep =>
      match (p.threads i).deliveries with
      | [] => p
      | d :: ds =>
          let s := (p.session i).take d.seat keep
          p.resume i { s with guards := s.guards.ended d.guard } ds

/-- The program after some moves of its threads. -/
def after (p : Program) (moves : List (Nat × Move)) : Program :=
  moves.foldl (fun p m => p.step m.1 m.2) p

variable {p : Program} {i seat k : Nat} {guard : Option Nat} {a : Arbiter} {t : ProcessTable}

theorem begun?_of_not_reported {step : Step} (h : step.report = none) (seat : Nat)
    (guard : Option Nat) (request : Request) :
    begun? step (.arbitrate seat guard request) = none := by
  rw [begun?, h]
  rfl

theorem begun?_of_reported {step : Step} {r : Report} (h : step.report = some r) (seat : Nat)
    (guard : Option Nat) (request : Request) :
    begun? step (.arbitrate seat guard request) = some ⟨seat, guard⟩ := by
  rw [begun?, h]
  rfl

theorem step_act_of_none {act : Act} (h : begun? (p.act i act) act = none) :
    p.step i (.act act) = p.resume i (p.act i act).session (p.threads i).deliveries := by
  simp only [step, h]

theorem step_act_of_some {act : Act} {d : Delivery} (h : begun? (p.act i act) act = some d) :
    p.step i (.act act) =
      p.resume i
        { (p.act i act).session with guards := (p.act i act).session.guards.begun d.guard }
        (d :: (p.threads i).deliveries) := by
  simp only [step, h]

@[simp] theorem seats_step_act (p : Program) (i : Nat) (act : Act) :
    (p.step i (.act act)).seats = (p.act i act).session.seats := by
  simp only [step]
  split <;> rfl

@[simp] theorem tables_step_act (p : Program) (i : Nat) (act : Act) :
    (p.step i (.act act)).tables = (p.act i act).session.tables := by
  simp only [step]
  split <;> rfl

theorem step_finish {d : Delivery} {ds : List Delivery} (h : (p.threads i).deliveries = d :: ds)
    (keep : Inbox → Inbox) :
    p.step i (.finish keep) =
      p.resume i
        { (p.session i).take d.seat keep with guards := (p.threads i).guards.ended d.guard }
        ds := by
  simp only [step, h]
  rfl

theorem after_cons (p : Program) (i : Nat) (m : Move) (moves : List (Nat × Move)) :
    p.after ((i, m) :: moves) = (p.step i m).after moves := rfl

theorem after_append (p : Program) (moves more : List (Nat × Move)) :
    p.after (moves ++ more) = (p.after moves).after more := List.foldl_append

theorem after_concat (p : Program) (moves : List (Nat × Move)) (i : Nat) (m : Move) :
    p.after (moves ++ [(i, m)]) = (p.after moves).step i m := after_append ..

/-! ## Calls that are passed through -/

theorem resume_session (p : Program) (i : Nat) (seats : List Seat) (tables : List ProcessTable) :
    p.resume i { p.session i with seats, tables } (p.threads i).deliveries =
      { p with seats, tables } := by
  simp only [resume, session, Program.mk.injEq, true_and]
  exact Function.update_eq_self i p.threads

/-- A request to an arbiter is decided at the depth that its level makes. -/
theorem act_arbitrate (hseat : p.seats[seat]? = some ⟨a, k⟩) (htable : p.tables[k]? = some t)
    (hheld : (p.threads i).holds guard = true) (request : Request) :
    p.act i (.arbitrate seat guard request) =
      let out := a.decideAt ((p.threads i).levels guard) t request
      ⟨.decision out.decision, out.report,
        { p.session i with
          seats := p.seats.set seat ⟨out.arbiter, k⟩
          tables := p.tables.set k out.table },
        out.events⟩ := by
  rw [act, if_pos hheld]
  exact Session.decideAt_eq hseat htable ..

/-- A request is refused, or there are its level, an arbiter and a table. -/
theorem act_arbitrate_cases (p : Program) (i seat : Nat) (guard : Option Nat) (request : Request) :
    p.act i (.arbitrate seat guard request) = (p.session i).refuse ∨
      (p.threads i).holds guard = true ∧
        ∃ a k t, p.seats[seat]? = some ⟨a, k⟩ ∧ p.tables[k]? = some t := by
  by_cases hheld : (p.threads i).holds guard = true
  · rcases (p.session i).refuses_or_decides seat with hrefuses | hdecides
    · exact .inl (by rw [act, if_pos hheld, (hrefuses _ _).1])
    · exact .inr ⟨hheld, hdecides⟩
  · exact .inl (by rw [act, if_neg hheld])

/-- A call that is not the only level is passed through: it is counted by its arbiter, and
that is all. -/
theorem act_of_levels_ne_one (hseat : p.seats[seat]? = some ⟨a, k⟩)
    (htable : p.tables[k]? = some t)
    (hheld : (p.threads i).holds guard = true)
    (hlevels : (p.threads i).levels guard ≠ 1) (request : Request) :
    p.act i (.arbitrate seat guard request) =
      ⟨.decision .passThrough, none,
        { p.session i with seats := p.seats.set seat ⟨a.countSuppressed, k⟩ }, []⟩ := by
  obtain ⟨hlt, rfl⟩ := List.getElem?_eq_some_iff.1 htable
  simp only [act_arbitrate hseat htable hheld, Arbiter.decideAt_of_ne_one hlevels,
    Arbiter.passThrough, List.set_getElem_self hlt]
  rfl

theorem step_of_levels_ne_one (hseat : p.seats[seat]? = some ⟨a, k⟩)
    (htable : p.tables[k]? = some t)
    (hheld : (p.threads i).holds guard = true)
    (hlevels : (p.threads i).levels guard ≠ 1) (request : Request) :
    p.step i (.act (.arbitrate seat guard request)) =
      { p with seats := p.seats.set seat ⟨a.countSuppressed, k⟩ } := by
  rw [step, act_of_levels_ne_one hseat htable hheld hlevels]
  exact resume_session p i _ _

/-- Only a call on the only level is reported. -/
theorem levels_of_report {request : Request}
    (h : (p.act i (.arbitrate seat guard request)).report.isSome = true) :
    (p.threads i).levels guard = 1 := by
  by_contra hlevels
  rcases p.act_arbitrate_cases i seat guard request with hrefused | ⟨hheld, a, k, t, ha, ht⟩
  · rw [hrefused] at h
    cases h
  · rw [act_of_levels_ne_one ha ht hheld hlevels] at h
    cases h

/-- Requests on levels of their own below another one are passed through. -/
theorem after_requests (hseat : p.seats[seat]? = some ⟨a, k⟩) (htable : p.tables[k]? = some t)
    (hdepth : 0 < (p.threads i).guards.depth) (requests : List Request) :
    p.after (requests.map fun q => (i, .act (.arbitrate seat none q))) =
      { p with seats := p.seats.set seat ⟨a.suppress requests.length, k⟩ } := by
  induction requests generalizing p a with
  | nil =>
      obtain ⟨hlt, hself⟩ := List.getElem?_eq_some_iff.1 hseat
      have hsame : a.suppress 0 = a := rfl
      rw [List.length_nil, hsame, ← hself, List.set_getElem_self hlt]
      rfl
  | cons q qs ih =>
      have hlt := (List.getElem?_eq_some_iff.1 hseat).1
      have hlevels : (p.threads i).levels none ≠ 1 := Nat.succ_ne_succ_iff.2 (Nat.ne_of_gt hdepth)
      have hfirst := step_of_levels_ne_one hseat htable rfl hlevels q
      have hrest := ih (p := { p with seats := p.seats.set seat ⟨a.countSuppressed, k⟩ })
        (List.getElem?_set_self hlt) htable hdepth
      rw [List.set_set, Arbiter.suppress_countSuppressed] at hrest
      rw [List.map_cons, after_cons, hfirst]
      exact hrest

/-! ## The sinks of arbiters -/

/-- What the sink of an arbiter does with a report. -/
def reaction (s : Session) (step : Step) : Act → List Move
  | .arbitrate seat _ _ =>
      match step.report, s.seats[seat]? with
      | some r, some ⟨a, _⟩ =>
          let requests := a.sink.requests a.inbox r
          (requests.map fun q => .act (.arbitrate seat none q)) ++
            [.finish (a.sink.keep r requests.length)]
      | _, _ => []
  | _ => []

/-- A request of a session is made at the same depth as one of its thread. -/
theorem perform_session_arbitrate (p : Program) (i seat : Nat) (guard : Option Nat)
    (request : Request) :
    (p.session i).perform (.arbitrate seat guard request) =
      if (p.threads i).holds guard then
        (p.session i).arbitrateAt seat ((p.threads i).levels guard) request
      else (p.session i).refuse := by
  cases guard with
  | none => rfl
  | some g =>
      have hsame : (p.threads i).guards = (p.session i).guards := rfl
      rw [Thread.levels, Thread.holds, Option.all_some, hsame]
      cases hheld : (p.session i).guards.find? g with
      | none => simp only [Session.perform, hheld, Option.isSome_none, if_neg Bool.false_ne_true]
      | some _ => simp only [Session.perform, hheld, Option.isSome_some, if_true]

/-- Without calls under way, what is no request is performed as in a session. -/
theorem act_eq_perform (h : (p.threads i).deliveries = []) {act : Act}
    (hact : act.isRequest = false) :
    p.act i act = (p.session i).perform act := by
  cases act with
  | arbitrate seat guard request => cases hact
  | enter => rfl
  | leave guard =>
      have huses : (p.threads i).uses guard = false := by
        rw [Thread.uses, h]
        rfl
      rw [Program.act, huses]
      rfl
  | tearDown seat => rfl
  | register table pid parent => rfl
  | record table pid cls bytes => rfl
  | retire table root => rfl

/-- What the sink of an arbiter does with a report is to deliver it. -/
theorem after_delivery {r : Report} {ds : List Delivery}
    (hseat : p.seats[seat]? = some ⟨a, k⟩) (htable : p.tables[k]? = some t)
    (hds : (p.threads i).deliveries = ⟨seat, guard⟩ :: ds)
    (hdepth : 0 < (p.threads i).guards.depth) :
    p.after (((a.sink.requests a.inbox r).map fun q => (i, .act (.arbitrate seat none q))) ++
        [(i, .finish (a.sink.keep r (a.sink.requests a.inbox r).length))]) =
      p.resume i
        { p.session i with
          seats := p.seats.set seat
            ⟨(Arbiter.deliver (fun a t _ => a.passThrough t) a t r).1, k⟩
          guards := (p.threads i).guards.ended guard } ds := by
  obtain ⟨hlt, -⟩ := List.getElem?_eq_some_iff.1 hseat
  rw [after_concat, after_requests hseat htable hdepth, step]
  simp only [hds]
  have hset (b : Arbiter) (f : Seat → Seat) :
      (p.seats.set seat ⟨b, k⟩).modify seat f = p.seats.set seat (f ⟨b, k⟩) := by
    rw [List.modify_eq_set_getElem?, List.getElem?_set_self hlt]
    exact List.set_set ..
  simp only [session, Session.take, hset, Arbiter.deliver_eq]
  rfl

/-- A request that is reported is decided in one move, and delivered in those of the sink. -/
theorem after_reported (h : (p.threads i).deliveries = [])
    (hseat : p.seats[seat]? = some ⟨a, k⟩) (htable : p.tables[k]? = some t)
    (hheld : (p.threads i).holds guard = true) {request : Request} {d : Decision} {r : Report}
    {counted : Arbiter} {table : ProcessTable} {events : List Event}
    (hout : a.decideAt ((p.threads i).levels guard) t request =
      ⟨d, some r, counted, table, events⟩) :
    p.after ((i, .act (.arbitrate seat guard request)) ::
        (((counted.sink.requests counted.inbox r).map fun q =>
            (i, .act (.arbitrate seat none q))) ++
          [(i, .finish (counted.sink.keep r (counted.sink.requests counted.inbox r).length))])) =
      p.resume i
        { p.session i with
          seats := p.seats.set seat
            ⟨(Arbiter.deliver (fun a t _ => a.passThrough t) counted table r).1, k⟩
          tables := p.tables.set k table } [] := by
  obtain ⟨hlt, -⟩ := List.getElem?_eq_some_iff.1 hseat
  obtain ⟨hlt', -⟩ := List.getElem?_eq_some_iff.1 htable
  have hact := act_arbitrate hseat htable hheld request
  rw [hout] at hact
  let decided : Program := p.resume i
    { p.session i with
      seats := p.seats.set seat ⟨counted, k⟩
      tables := p.tables.set k table
      guards := (p.threads i).guards.begun guard } [⟨seat, guard⟩]
  have hstep : p.step i (.act (.arbitrate seat guard request)) = decided := by
    have hbegun := begun?_of_reported (congrArg Step.report hact) seat guard request
    rw [step_act_of_some hbegun, hact, h]
    rfl
  have hthread : decided.threads i = ⟨(p.threads i).guards.begun guard, [⟨seat, guard⟩]⟩ :=
    Function.update_self ..
  have hdepth : 0 < (decided.threads i).guards.depth := by
    have hsole : (p.threads i).levels guard = 1 := levels_of_report (by rw [hact]; rfl)
    rw [hthread]
    exact Nat.lt_of_lt_of_eq Nat.one_pos hsole.symm
  have hdelivered := after_delivery (r := r) (List.getElem?_set_self hlt)
    (List.getElem?_set_self hlt') (congrArg Thread.deliveries hthread) hdepth
  rw [after_cons, hstep, hdelivered, hthread, Guards.ended_begun]
  simp only [decided, resume, session, List.set_set, Function.update_idem]

/-- With the sink that its arbiter has, a request is decided in one move, and in those of its
delivery if it is reported. -/
theorem after_reaction_arbitrate (h : (p.threads i).deliveries = [])
    (hseat : p.seats[seat]? = some ⟨a, k⟩) (htable : p.tables[k]? = some t)
    (hheld : (p.threads i).holds guard = true) (request : Request) :
    let first := p.act i (.arbitrate seat guard request)
    let whole := (p.session i).arbitrateAt seat ((p.threads i).levels guard) request
    first.answer = whole.answer ∧ first.report = whole.report ∧
      p.after ((i, .act (.arbitrate seat guard request)) ::
          (reaction first.session first (.arbitrate seat guard request)).map fun m => (i, m)) =
        p.resume i whole.session [] := by
  have hact := act_arbitrate hseat htable hheld request
  have hwhole : (p.session i).arbitrateAt seat ((p.threads i).levels guard) request = _ :=
    Session.arbitrateAt_eq hseat htable ..
  dsimp only
  rw [hact, hwhole, Arbiter.arbitrateAt_eq_decideAt]
  obtain ⟨hlt, -⟩ := List.getElem?_eq_some_iff.1 hseat
  rcases hout : a.decideAt ((p.threads i).levels guard) t request with
    ⟨d, report, counted, table, events⟩
  rw [hout] at hact
  refine ⟨by cases report <;> rfl, by cases report <;> rfl, ?_⟩
  cases report with
  | none =>
      rw [reaction, List.map_nil, after_cons, step, hact, begun?, h]
      rfl
  | some r =>
      have hreported := after_reported h hseat htable hheld hout
      simp only [reaction, List.getElem?_set_self hlt, List.map_append, List.map_map,
        List.map_cons, List.map_nil]
      refine hreported.trans ?_
      rw [Arbiter.table_deliver]
      rfl

/-- With the sinks that arbiters have, an act of a session is the moves of a thread: the act
and, where a report is delivered, what the sink does with it. -/
theorem after_reaction (h : (p.threads i).deliveries = []) (act : Act) :
    (p.act i act).answer = ((p.session i).perform act).answer ∧
      (p.act i act).report = ((p.session i).perform act).report ∧
      p.after ((i, .act act) ::
          (reaction (p.act i act).session (p.act i act) act).map fun m => (i, m)) =
        p.resume i ((p.session i).perform act).session [] := by
  -- an act without delivery is one move
  have hplain (hbegun : begun? (p.act i act) act = none)
      (hreaction : reaction (p.act i act).session (p.act i act) act = [])
      (hsame : p.act i act = (p.session i).perform act) :
      (p.act i act).answer = ((p.session i).perform act).answer ∧
        (p.act i act).report = ((p.session i).perform act).report ∧
        p.after ((i, .act act) ::
            (reaction (p.act i act).session (p.act i act) act).map fun m => (i, m)) =
          p.resume i ((p.session i).perform act).session [] := by
    refine ⟨by rw [hsame], by rw [hsame], ?_⟩
    rw [hreaction, List.map_nil, after_cons, step, hbegun, h, hsame]
    rfl
  cases act with
  | arbitrate seat guard request =>
      have hperform := p.perform_session_arbitrate i seat guard request
      by_cases hheld : (p.threads i).holds guard = true
      · rw [if_pos hheld] at hperform
        rcases (p.session i).refuses_or_decides seat with hrefuses | ⟨a, k, t, hseat, htable⟩
        · obtain ⟨hdecide, harbitrate⟩ := hrefuses ((p.threads i).levels guard) request
          have hact : p.act i (.arbitrate seat guard request) = (p.session i).refuse := by
            rw [Program.act, if_pos hheld, hdecide]
          exact hplain (by rw [hact]; rfl) (by rw [hact]; rfl) (by rw [hact, hperform, harbitrate])
        · rw [hperform]
          exact after_reaction_arbitrate h hseat htable hheld request
      · have hact : p.act i (.arbitrate seat guard request) = (p.session i).refuse := by
          rw [Program.act, if_neg hheld]
        exact hplain (by rw [hact]; rfl) (by rw [hact]; rfl) (by rw [hact, hperform, if_neg hheld])
  | enter => exact hplain rfl rfl (act_eq_perform h rfl)
  | leave guard => exact hplain rfl rfl (act_eq_perform h rfl)
  | tearDown seat => exact hplain rfl rfl rfl
  | register table pid parent => exact hplain rfl rfl rfl
  | record table pid cls bytes => exact hplain rfl rfl rfl
  | retire table root => exact hplain rfl rfl rfl

/-- The moves of a session whose acts are performed one after the other. -/
def sessionMoves (s : Session) : List Act → List (Nat × Move)
  | [] => []
  | act :: acts =>
      let first := (ofSession s).act 0 act
      (0, .act act) :: (reaction first.session first act).map (fun m => (0, m)) ++
        sessionMoves (s.perform act).session acts

/-- With the sinks that arbiters have, a session is a program with one thread. -/
theorem after_sessionMoves (s : Session) (acts : List Act) :
    (ofSession s).after (sessionMoves s acts) = ofSession (s.after acts) := by
  induction acts generalizing s with
  | nil => rfl
  | cons act acts ih =>
      have hresume (s' : Session) : (ofSession s).resume 0 s' [] = ofSession s' := by
        simp only [resume, ofSession, Program.mk.injEq, true_and]
        funext i
        by_cases hi : i = 0 <;> simp [Function.update, hi]
      obtain ⟨-, -, hafter⟩ := after_reaction (p := ofSession s) (i := 0) rfl act
      rw [sessionMoves, after_append, hafter, hresume, Session.after_cons]
      exact ih (s.perform act).session

end Program

end AccessPolicy
