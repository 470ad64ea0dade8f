import AccessPolicy.Proofs.Activity
import AccessPolicy.Proofs.Lockstep
import AccessPolicy.Proofs.Reentrancy

/-!
# AccessPolicy.Proofs.Teardown

Tearing down is final.

An arbiter that was torn down stays so, whatever its callers and its sink do:

1. a call on the only level of its thread *fails closed*: it is denied and reported as coming
   too late, in either mode and for any path, and no table changes;
2. any other call is passed through, as before;
3. the sink is told to finish once, and so is the log.

What was decided before is what would have been decided anyway.

* `later_step`, `later_after` — what a move and a run make of an arbiter;
* `failsClosed` — calls of an arbiter that was torn down;
* `teardown_final` — all runs.
-/

namespace AccessPolicy

/-! ## Moves -/

/-- Whether a move tears down the arbiter in a seat. -/
def Move.tearsDown (seat : Nat) : Move → Bool
  | .act x => x.tearsDown seat
  | .finish _ => false

/-- A sink that returns leaves alone how often it was told to finish. -/
def Move.SparesFlushes : Move → Prop
  | .act _ => True
  | .finish keep => ∀ inbox, (keep inbox).flushes = inbox.flushes

/-- To tear down twice is to tear down once. -/
theorem toNat_first_add (before now later : Bool) :
    (!before && now).toNat + (!(before || now) && later).toNat =
      (!before && (now || later)).toNat := by
  cases before <;> cases now <;> cases later <;> rfl

namespace Arbiter

/-- A later state of an arbiter, with whether it was torn down in between.  Its sink was told
the first time, and if it was left alone otherwise, as `spared` says, it knows that. -/
structure Later (a b : Arbiter) (torn : Bool) (spared : Prop) : Prop where
  job : b.SameJob a
  tearingDown : b.tearingDown = (a.tearingDown || torn)
  flushes : spared → a.sink ≠ .logging →
    b.inbox.flushes = a.inbox.flushes + (!a.tearingDown && torn).toNat

theorem Later.refl (a : Arbiter) (spared : Prop) : a.Later a false spared :=
  ⟨.refl a, (Bool.or_false _).symm, fun _ _ => by simp⟩

theorem Later.trans {a b c : Arbiter} {torn torn' : Bool} {spared spared' : Prop}
    (h : a.Later b torn spared) (h' : b.Later c torn' spared') :
    a.Later c (torn || torn') (spared ∧ spared') where
  job := h'.job.trans h.job
  tearingDown := by rw [h'.tearingDown, h.tearingDown, Bool.or_assoc]
  flushes hspared hsink := by
    have hsink' : b.sink ≠ .logging := h.job.sink ▸ hsink
    have hfirst := h.flushes hspared.1 hsink
    have hsecond := h'.flushes hspared.2 hsink'
    have htold := toNat_first_add a.tearingDown torn torn'
    rw [hsecond, hfirst, h.tearingDown]
    omega

/-- A call is no tearing down. -/
theorem later_decideAt (a : Arbiter) (depth : Nat) (t : ProcessTable) (request : Request)
    (spared : Prop) : a.Later (a.decideAt depth t request).arbiter false spared := by
  unfold decideAt
  split
  · exact { Later.refl a spared with job := ⟨rfl, rfl, rfl⟩ }
  · exact { Later.refl a spared with job := ⟨rfl, rfl, rfl⟩ }

theorem later_tearDown (a : Arbiter) (spared : Prop) : a.Later a.tearDown.1 true spared := by
  rw [tearDown_eq]
  refine ⟨⟨rfl, rfl, rfl⟩, (Bool.or_true _).symm, fun _ hsink => ?_⟩
  cases a.tearingDown with
  | true => rfl
  | false =>
      cases h : a.sink with
      | logging => exact absurd h hsink
      | responding requests => rfl
      | panicking payload => rfl

end Arbiter

namespace Program

variable {p : Program} {i seat k : Nat} {a : Arbiter}

/-- What a move makes of an arbiter. -/
theorem later_step (hseat : p.seats[seat]? = some ⟨a, k⟩) (i : Nat) (m : Move) :
    ∃ b, (p.step i m).seats[seat]? = some ⟨b, k⟩ ∧
      a.Later b (m.tearsDown seat) m.SparesFlushes := by
  cases m with
  | finish keep =>
      obtain ⟨b, hb, rfl | rfl⟩ := seat_finish hseat i keep
      · exact ⟨b, hb, .refl b _⟩
      · have hflushes (hspares : Move.SparesFlushes (.finish keep)) :
            (keep a.inbox).flushes = a.inbox.flushes := hspares a.inbox
        exact ⟨_, hb, ⟨rfl, rfl, rfl⟩, (Bool.or_false _).symm,
          fun hspares _ => by simpa [Move.tearsDown] using hflushes hspares⟩
  | act act =>
      by_cases hact : act.isRequest = false
      · have hstep : (p.step i (.act act)).seats[seat]? =
            some ⟨if act.tearsDown seat then a.tearDown.1 else a, k⟩ := by
          have hperform := Session.getElem?_seats_perform (s := p.session i) hseat hact
          rw [seats_step_act, seats_act p i hact, hperform]
        refine ⟨_, hstep, ?_⟩
        simp only [Move.tearsDown]
        cases act.tearsDown seat with
        | true => exact a.later_tearDown _
        | false => exact .refl a _
      · cases act with
        | arbitrate j guard request =>
            rcases seat_request hseat i j guard request with
              ⟨depth, t, -, -, hseat', -⟩ | ⟨-, hseat'⟩
            · exact ⟨_, hseat', a.later_decideAt depth t request _⟩
            · exact ⟨a, hseat', .refl a _⟩
        | _ => exact absurd rfl hact

/-- What a run makes of it. -/
theorem later_after (hseat : p.seats[seat]? = some ⟨a, k⟩) (moves : List (Nat × Move)) :
    ∃ b, (p.after moves).seats[seat]? = some ⟨b, k⟩ ∧
      a.Later b (moves.any (·.2.tearsDown seat)) (∀ m ∈ moves, m.2.SparesFlushes) := by
  induction moves generalizing p a with
  | nil => exact ⟨a, hseat, .refl a _⟩
  | cons m moves ih =>
      obtain ⟨b, hb, hfirst⟩ := later_step hseat m.1 m.2
      obtain ⟨c, hc, hrest⟩ := ih hb
      have hlater := hfirst.trans hrest
      have hspared : (m.2.SparesFlushes ∧ ∀ x ∈ moves, x.2.SparesFlushes) ↔
          ∀ x ∈ m :: moves, x.2.SparesFlushes := by simp
      rw [hspared] at hlater
      exact ⟨c, hc, hlater⟩

/-! ## What is logged -/

/-- What is logged of tearing down an arbiter by a move. -/
def told (p : Program) (seat i : Nat) : Move → List Event
  | .act act => if act.tearsDown seat then (p.act i act).events else []
  | .finish _ => []

/-- What is logged of tearing it down in a run. -/
def announced (p : Program) (seat : Nat) : List (Nat × Move) → List Event
  | [] => []
  | m :: moves => p.told seat m.1 m.2 ++ (p.step m.1 m.2).announced seat moves

/-- An arbiter is said to be torn down only the first time. -/
theorem length_told (hseat : p.seats[seat]? = some ⟨a, k⟩) (i : Nat) (m : Move) :
    (p.told seat i m).length = (!a.tearingDown && m.tearsDown seat).toNat := by
  cases m with
  | finish keep => simp [told, Move.tearsDown]
  | act act =>
      simp only [told, Move.tearsDown]
      cases htorn : act.tearsDown seat with
      | false => simp
      | true =>
          cases act with
          | tearDown j =>
              obtain rfl : j = seat := of_decide_eq_true htorn
              have hseat' : (p.session i).seats[j]? = some ⟨a, k⟩ := hseat
              simp only [Program.act, Session.perform, hseat', if_true]
              unfold Arbiter.tearDown
              cases a.tearingDown <;> rfl
          | _ => cases htorn

theorem length_announced (hseat : p.seats[seat]? = some ⟨a, k⟩) (moves : List (Nat × Move)) :
    (p.announced seat moves).length =
      (!a.tearingDown && moves.any (·.2.tearsDown seat)).toNat := by
  induction moves generalizing p a with
  | nil => simp [announced]
  | cons m moves ih =>
      obtain ⟨b, hb, hfirst⟩ := later_step hseat m.1 m.2
      rw [announced, List.length_append, length_told hseat, ih hb, hfirst.tearingDown,
        toNat_first_add, List.any_cons]

/-! ## Calls that come too late -/

/-- A call fails closed: whatever is asked of whatever arbiter, it is denied as coming too
late, and its sink has a report of that in hand.  The call is counted as denied and reported,
and that is all that changes. -/
def FailsClosed (p : Program) (i seat : Nat) (guard : Option Nat) (request : Request) : Prop :=
  ∀ a k, p.seats[seat]? = some ⟨a, k⟩ → k < p.tables.length →
    p.act i (.arbitrate seat guard request) =
      ⟨.decision (.failClosed .tearingDown),
        some
          { pipId := a.settings.pipId
            process := request.process
            parent := request.parent
            operation := request.operation
            path := request.path
            decision := .failClosed .tearingDown
            policy := ∅
            level := .report
            action := .deny },
        { p.session i with
          seats := p.seats.set seat
            ⟨{ a with
                stats :=
                  { a.stats with
                    arbitrated := a.stats.arbitrated + 1
                    denied := a.stats.denied + 1
                    reported := a.stats.reported + 1 } }, k⟩ },
        [.accessDenied request .tearingDown]⟩ ∧
    ((p.step i (.act (.arbitrate seat guard request))).threads i).deliveries =
      ⟨seat, guard⟩ :: (p.threads i).deliveries

/-- On the only level, an arbiter that was torn down denies everything. -/
theorem failsClosed (hseat : p.seats[seat]? = some ⟨a, k⟩) (htorn : a.tearingDown = true)
    {guard : Option Nat} (hheld : (p.threads i).holds guard = true)
    (hlevels : (p.threads i).levels guard = 1) (request : Request) :
    p.FailsClosed i seat guard request := by
  intro b k' hb hk'
  obtain ⟨rfl, rfl⟩ := Seat.mk.inj (Option.some.inj (hb.symm.trans hseat))
  have hjudge : b.judge request = (.failClosed .tearingDown, none) := if_pos htorn
  have hact := act_arbitrate hb (List.getElem?_eq_getElem hk') hheld request
  simp only [Arbiter.decideAt, hlevels, hjudge, if_true] at hact
  have htables : p.tables.set k' p.tables[k'] = p.tables := List.set_getElem_self hk'
  have hcalled : p.act i (.arbitrate seat guard request) = _ := hact.trans (by
    simp only [Verdict.failClosed, Arbiter.account, Decision.failClosed, Bool.false_eq_true,
      if_false, htables]
    rfl)
  refine ⟨hcalled, ?_⟩
  have hbegun := begun?_of_reported (congrArg Step.report hcalled) seat guard request
  rw [threads_act_of_some hbegun, Function.update_self]

/-! ## What came before -/

theorem calls_append (p : Program) (seat : Nat) (moves more : List (Nat × Move)) :
    p.calls seat (moves ++ more) = p.calls seat moves ++ (p.after moves).calls seat more := by
  induction moves generalizing p with
  | nil => rfl
  | cons m moves ih => rw [List.cons_append, calls, calls, ih, List.append_assoc]; rfl

/-- The calls of the first moves of a run are the first calls of the run. -/
theorem calls_prefix (p : Program) (seat : Nat) {moves more : List (Nat × Move)}
    (h : moves <+: more) : p.calls seat moves <+: p.calls seat more := by
  obtain ⟨rest, rfl⟩ := h
  exact ⟨_, (p.calls_append seat moves rest).symm⟩

/-- The moves before the first of some kind are the first moves of the run without that kind. -/
theorem takeWhile_prefix_filter {α : Type} (f : α → Bool) (xs : List α) :
    xs.takeWhile f <+: xs.filter f := by
  induction xs with
  | nil => exact List.prefix_rfl
  | cons x xs ih =>
      cases hx : f x with
      | false => simp [hx]
      | true => simpa [hx] using ih

/-! ## Sessions -/

/-- What the sink of an arbiter does with a report neither tears down nor is told to finish. -/
theorem reaction_spares (s : Session) (step : Step) (act : Act) :
    ∀ m ∈ reaction s step act, m.SparesFlushes ∧ ∀ seat, m.tearsDown seat = false := by
  intro m hm
  unfold reaction at hm
  split at hm
  · split at hm
    · rename_i a _ _ _
      rcases List.mem_append.1 hm with hrequest | hfinish
      · obtain ⟨q, -, rfl⟩ := List.mem_map.1 hrequest
        exact ⟨trivial, fun _ => rfl⟩
      · obtain rfl := List.mem_singleton.1 hfinish
        exact ⟨fun inbox => by cases a.sink <;> rfl, fun _ => rfl⟩
    · cases hm
  · cases hm

theorem sessionMoves_spare (s : Session) (acts : List Act) :
    ∀ m ∈ sessionMoves s acts, m.2.SparesFlushes := by
  induction acts generalizing s with
  | nil => exact fun m hm => absurd hm List.not_mem_nil
  | cons act acts ih =>
      intro m hm
      rw [sessionMoves, List.cons_append, List.mem_cons, List.mem_append] at hm
      rcases hm with rfl | hreaction | hrest
      · trivial
      · obtain ⟨m, hm, rfl⟩ := List.mem_map.1 hreaction
        exact (reaction_spares _ _ _ m hm).1
      · exact ih _ m hrest

/-- An arbiter is torn down by the acts of a session. -/
theorem any_sessionMoves (s : Session) (seat : Nat) (acts : List Act) :
    (sessionMoves s acts).any (·.2.tearsDown seat) = acts.any (·.tearsDown seat) := by
  induction acts generalizing s with
  | nil => rfl
  | cons act acts ih =>
      have hreaction :
          ((reaction ((ofSession s).act 0 act).session ((ofSession s).act 0 act) act).map
            fun m => ((0 : Nat), m)).any (·.2.tearsDown seat) = false := by
        simp only [List.any_map, List.any_eq_false]
        intro m hm
        simp [(reaction_spares _ _ _ m hm).2 seat]
      rw [sessionMoves, List.any_append, List.any_cons, hreaction, ih, List.any_cons, Bool.or_false]
      rfl

/-! ## Finality -/

/-- **Teardown**: take an arbiter that has done nothing yet, in a program whose threads and
sinks move as they like.  After any moves:

1. it is tearing down iff one of them has torn it down;
2. then a call of it fails closed on the only level of a thread, and is passed through below
   another level;
3. its sink was told to finish once, unless the sink itself denies it, and the log once, or
   neither was;
4. the calls before it was torn down, of this and of all arbiters, are those of the run in
   which it is not.

Sessions are such programs, and their sinks do not deny what they were told. -/
theorem teardown_final {tree : ScopeTree} {settings : Settings} {sink : Sink}
    (hseat : p.seats[seat]? = some ⟨.create tree settings sink, k⟩)
    (moves : List (Nat × Move)) :
    let q := p.after moves
    let torn := moves.any (·.2.tearsDown seat)
    let before := moves.takeWhile (!·.2.tearsDown seat)
    (∃ a, q.seats[seat]? = some ⟨a, k⟩ ∧ a.SameJob (.create tree settings sink) ∧
      a.tearingDown = torn ∧
      ((∀ m ∈ moves, m.2.SparesFlushes) → sink ≠ .logging → a.inbox.flushes = torn.toNat)) ∧
    (torn = true → ∀ i guard request, (q.threads i).holds guard = true →
      ((q.threads i).levels guard = 1 → q.FailsClosed i seat guard request) ∧
      ((q.threads i).levels guard ≠ 1 → q.PassesThrough i seat guard request)) ∧
    (p.announced seat moves).length = torn.toNat ∧
    (∀ j, p.calls j before <+: p.calls j moves ∧
      p.calls j before <+: p.calls j (moves.filter (!·.2.tearsDown seat))) ∧
    ∀ s acts, p = .ofSession s → moves = sessionMoves s acts →
      q = .ofSession (s.after acts) ∧ torn = acts.any (·.tearsDown seat) ∧
        ∀ m ∈ moves, m.2.SparesFlushes := by
  intro q torn before
  obtain ⟨a, ha, hlater⟩ := later_after hseat moves
  have htorn : a.tearingDown = torn := hlater.tearingDown
  have hflushes (hspared : ∀ m ∈ moves, m.2.SparesFlushes) (hsink : sink ≠ .logging) :
      a.inbox.flushes = torn.toNat := by
    have hcounted := hlater.flushes hspared hsink
    simpa [Arbiter.create, Inbox.empty] using hcounted
  have hannounced : (p.announced seat moves).length = torn.toNat := by
    have hlength := length_announced hseat moves
    simpa [Arbiter.create] using hlength
  refine ⟨⟨a, ha, hlater.job, htorn, hflushes⟩, fun hdown i guard request hheld => ⟨?_, ?_⟩,
    hannounced, fun j => ⟨?_, ?_⟩, ?_⟩
  · exact fun hlevels => failsClosed ha (htorn.trans hdown) hheld hlevels request
  · exact fun hlevels => passesThrough hheld hlevels seat request
  · exact p.calls_prefix j (List.takeWhile_prefix _)
  · exact p.calls_prefix j (takeWhile_prefix_filter _ moves)
  · rintro s acts rfl rfl
    exact ⟨after_sessionMoves s acts, any_sessionMoves s seat acts, sessionMoves_spare s acts⟩

/-- An arbiter reports an access that it denies, and the sink has it torn down.  Another thread
does the same while the report is delivered, and enters a level. -/
def tearingMoves : List (Nat × Move) :=
  [(0, .act (.arbitrate 0 none ScopeTree.sampleRequest)), (0, .act (.tearDown 0)),
    (1, .act (.tearDown 0)), (1, .act .enter), (0, .finish id)]

/-- The program after these moves. -/
def tornDown : Program := (ofSession Session.echoingSession).after tearingMoves

/-- A request that names no path is then denied as coming too late, and not as a fault; on the
other thread it is passed through. -/
theorem teardown_final_sample :
    (∃ a, tornDown.seats[0]? = some ⟨a, 0⟩ ∧ a.tearingDown = true ∧ a.inbox.flushes = 1) ∧
      ((ofSession Session.echoingSession).announced 0 tearingMoves).length = 1 ∧
      tornDown.FailsClosed 0 0 none ⟨"src", .read, 40, none, 9, true⟩ ∧
      tornDown.PassesThrough 1 0 none ⟨"src", .read, 40, none, 9, true⟩ ∧
      [⟨true, ⟨false, true, true, 3, .noCoveringGrant⟩, true,
          [.accessDenied ScopeTree.sampleRequest .noCoveringGrant]⟩] <+:
        (ofSession Session.echoingSession).calls 0
          [(0, .act (.arbitrate 0 none ScopeTree.sampleRequest)), (1, .act .enter),
            (0, .finish id)] := by
  have hseat : (ofSession Session.echoingSession).seats[0]? =
      some ⟨.create ScopeTree.sampleTree ⟨7, .strict, false⟩
        (.responding fun _ r => [⟨r.path, .write, r.process, none, 48, true⟩]), 0⟩ := rfl
  obtain ⟨⟨a, ha, -, htorn, hflushes⟩, hlate, hannounced, hbefore, -⟩ :=
    teardown_final hseat tearingMoves
  have hspares : ∀ m ∈ tearingMoves, m.2.SparesFlushes := by
    simp [tearingMoves, Move.SparesFlushes]
  have hfirst : (ofSession Session.echoingSession).calls 0
      [(0, .act (.arbitrate 0 none ScopeTree.sampleRequest))] =
        [⟨true, ⟨false, true, true, 3, .noCoveringGrant⟩, true,
          [.accessDenied ScopeTree.sampleRequest .noCoveringGrant]⟩] := by
    decide +kernel
  have hother := (hbefore 0).2
  exact ⟨⟨a, ha, htorn, hflushes hspares Sink.noConfusion⟩, hannounced,
    (hlate rfl 0 none _ rfl).1 (by decide +kernel), (hlate rfl 1 none _ rfl).2 (by decide +kernel),
    hfirst ▸ hother⟩

end Program

end AccessPolicy
