import AccessPolicy.Proofs.Lockstep
import AccessPolicy.Proofs.Verdicts

/-!
# AccessPolicy.Proofs.Noninterference

Reporting has no influence on what is decided and counted.

Two arbiters *enforce alike* when they have the same tree and mode, have decided alike so far
and are both tearing down or both not.  They may report different accesses under different
names to different sinks, of which one may have panicked at every report and the other made
requests of its own.

* `agrees_judge` — verdicts of arbiters that enforce alike;
* `reporting` — the coupling of runs in which an arbiter reports otherwise;
* `reporting_inert` — all runs.
-/

namespace AccessPolicy

/-! ## Verdicts -/

/-- Decisions that enforce the same.  What the first reports, the second reports too, if that
is said to be `louder`. -/
structure Decision.Agrees (louder : Prop) (d e : Decision) : Prop where
  allowed : d.allowed = e.allowed
  unexpected : d.unexpected = e.unexpected
  matchedDepth : d.matchedDepth = e.matchedDepth
  reason : d.reason = e.reason
  reported : louder → d.reported = true → e.reported = true

/-- Settings that enforce the same. -/
structure Settings.Agrees (louder : Prop) (s s' : Settings) : Prop where
  mode : s.mode = s'.mode
  reportAll : louder → s.reportAll = true → s'.reportAll = true

variable {louder : Prop}

theorem Decision.Agrees.refl (d : Decision) : d.Agrees louder d :=
  ⟨rfl, rfl, rfl, rfl, fun _ => id⟩

/-- To report more or less changes no verdict. -/
theorem Verdict.agrees_ofResolution {s s' : Settings} (h : s.Agrees louder s') (request : Request)
    (found : Resolution) :
    (ofResolution s request found).decision.Agrees louder
      (ofResolution s' request found).decision where
  allowed := by simp only [ofResolution, h.mode]
  unexpected := rfl
  matchedDepth := rfl
  reason := rfl
  reported hlouder hreported := by
    have hall := h.reportAll hlouder
    simp only [ofResolution, decide_eq_true_eq, levelFor_ne_ignore_iff] at hreported ⊢
    grind

/-! ## Arbiters -/

namespace Arbiter

/-- Two arbiters that have been asked the same, and report otherwise. -/
structure Agrees (louder : Prop) (a b : Arbiter) : Prop where
  tree : a.tree = b.tree
  settings : a.settings.Agrees louder b.settings
  tearingDown : a.tearingDown = b.tearingDown
  arbitrated : a.stats.arbitrated = b.stats.arbitrated
  denied : a.stats.denied = b.stats.denied
  faults : a.stats.faults = b.stats.faults

theorem Agrees.refl (a : Arbiter) : a.Agrees louder a :=
  ⟨rfl, ⟨rfl, fun _ => id⟩, rfl, rfl, rfl, rfl⟩

variable {a b : Arbiter}

/-- Arbiters that enforce alike decide alike. -/
theorem agrees_judge (h : a.Agrees louder b) (request : Request) :
    (a.judge request).1.decision.Agrees louder (b.judge request).1.decision ∧
      (a.judge request).2 = (b.judge request).2 :=
  have hfound (found : Resolution) := Verdict.agrees_ofResolution h.settings request found
  judge_congr (r := fun v w => v.decision.Agrees louder w.decision) (fun v => .refl v.decision)
    h.tearingDown h.tree request hfound

theorem Agrees.count (h : a.Agrees louder b) {d e : Decision} (hde : d.Agrees louder e)
    (fault : Option PathError) : (a.count d fault).Agrees louder (b.count e fault) :=
  { h with
    arbitrated := congrArg (· + 1) h.arbitrated
    denied := by simp [Arbiter.count, h.denied, hde.allowed]
    faults := by simp [Arbiter.count, h.faults] }

/-- To decide a request and to report the decision leaves behind what is decided and counted. -/
theorem exists_settle (a : Arbiter) (request : Request) :
    ∃ n inbox, a.settle request =
      { (a.count (a.judge request).1.decision (a.judge request).2).suppress n with inbox } := by
  unfold settle
  cases a.report? request with
  | none => exact ⟨0, _, rfl⟩
  | some r => exact ⟨_, _, rfl⟩

theorem Agrees.settle (h : a.Agrees louder b) (request : Request) :
    (a.settle request).Agrees louder (b.settle request) := by
  obtain ⟨hjudge, hfault⟩ := agrees_judge h request
  have hcount := h.count hjudge (a.judge request).2
  obtain ⟨n, inbox, ha⟩ := a.exists_settle request
  obtain ⟨n', inbox', hb⟩ := b.exists_settle request
  rw [ha, hb, ← hfault]
  exact { hcount with }

theorem Agrees.tearDown (h : a.Agrees louder b) :
    a.tearDown.1.Agrees louder b.tearDown.1 := by
  rw [tearDown_eq, tearDown_eq]
  exact { h with tearingDown := rfl }

end Arbiter

/-! ## Runs -/

/-- Runs in which an arbiter reports otherwise: the tables are the same. -/
def reporting (louder : Prop) : Coupling where
  arbiters := Arbiter.Agrees louder
  decisions := Decision.Agrees louder
  reports _ _ := True
  sameTables := True
  decisions_passThrough := .refl _
  reports_none := trivial
  decisions_judge h request := (Arbiter.agrees_judge h request).1
  reports_report? _ _ := trivial
  allowed_judge _ _ _ h request := (Arbiter.agrees_judge h request).1.allowed
  countSuppressed h := { h with }
  settle h request := h.settle request
  tearDown h := h.tearDown

/-- What the same act leaves behind in runs that enforce the same. -/
structure Step.Agrees (louder : Prop) (x y : Step) : Prop where
  answer : x.answer.Alike (Decision.Agrees louder) Eq y.answer
  tables : x.session.tables = y.session.tables
  guards : x.session.guards = y.session.guards

theorem Coupling.Steps.agrees {x y : Step} (h : (reporting louder).Steps x y) :
    x.Agrees louder y :=
  ⟨h.answer.imp (fun _ _ => id) fun _ _ hcounters => hcounters trivial,
    h.session.tables_eq trivial, h.session.guards⟩

/-- **Reporting is inert**: add to any session an arbiter with one way to report or with
another, and perform any acts.  Every access is decided alike, the same is written to all
tables, and the same levels are entered.  An arbiter that reports everything reports what the
other one reports. -/
theorem Session.reporting_inert (s : Session) (tree : ScopeTree) (mode : Mode)
    (pipId pipId' : UInt64) (reportAll reportAll' : Bool) (sink sink' : Sink) (shared : Bool)
    (acts : List Act) :
    let first := s.addArbiter (.create tree ⟨pipId, mode, reportAll⟩ sink) shared
    let second := s.addArbiter (.create tree ⟨pipId', mode, reportAll'⟩ sink') shared
    List.Forall₂ (Step.Agrees (reportAll' = true)) (first.run acts) (second.run acts) ∧
      ∃ a b k, (first.after acts).seats[s.seats.length]? = some ⟨a, k⟩ ∧
        (second.after acts).seats[s.seats.length]? = some ⟨b, k⟩ ∧
        a.stats.arbitrated = b.stats.arbitrated ∧
        a.stats.denied = b.stats.denied ∧
        a.stats.faults = b.stats.faults ∧
        a.tearingDown = b.tearingDown := by
  intro first second
  have hfresh : (Arbiter.create tree ⟨pipId, mode, reportAll⟩ sink).Agrees (reportAll' = true)
      (.create tree ⟨pipId', mode, reportAll'⟩ sink') :=
    ⟨rfl, ⟨rfl, fun hlouder _ => hlouder⟩, rfl, rfl, rfl, rfl⟩
  have hsessions : (reporting (reportAll' = true)).Sessions first second :=
    Coupling.Sessions.addArbiter Arbiter.Agrees.refl hfresh s shared
  have hsteps : List.Forall₂ (Step.Agrees (reportAll' = true)) (first.run acts)
      (second.run acts) :=
    (hsessions.run acts).imp fun _ _ => Coupling.Steps.agrees
  obtain ⟨a, b, k, ha, hb, -, hab⟩ := hsessions.exists_added acts
  exact ⟨hsteps, a, b, k, ha, hb, hab.arbitrated, hab.denied, hab.faults, hab.tearingDown⟩

end AccessPolicy
