import AccessPolicy.Proofs.Verdicts
import Mathlib.Data.List.Forall2

/-!
# AccessPolicy.Proofs.Reporting

What arrives at a sink that collects reports.

A report *tells* of a decision when it says all that there is to say:

1. it carries the request as it was made, the job, the decision and its action;
2. its policy is the one that the tree gives the path, and empty where the decision was
   forced by a fault or by tearing down;
3. its level is the explicit one iff that policy asks for a report, and never the lowest.

The sink may make requests of its own for every report.  They are part of the access
that is being reported, and bring about no reports.

* `tells_report` — the report of a verdict tells of its decision;
* `delivers_arbitrateAt` — what one call of an arbiter adds to its inbox;
* `delivers_perform` — what one act of a session adds to it;
* `reports_faithful` — in every run, the reports that arrive tell of the decisions that
  are to be reported, one by one and in order.
-/

namespace AccessPolicy

/-! ## Reports of decisions -/

/-- A policy asks for a report of an operation. -/
def PolicyBits.AsksReport (policy : PolicyBits) (operation : Operation) : Prop :=
  policy.contains .reportAccess = true ∨
    (operation = .enumerateDirectory ∧ policy.contains .reportDirectoryEnumeration = true)

theorem PolicyBits.not_asksReport_empty {operation : Operation} :
    ¬ AsksReport ∅ operation := by
  rintro (h | ⟨-, h⟩)
  · exact absurd h (by decide)
  · exact absurd h (by decide)

/-- A report says what there is to say of the decision on a request. -/
structure Report.Tells (r : Report) (tree : ScopeTree) (settings : Settings) (request : Request)
    (d : Decision) : Prop where
  pipId : r.pipId = settings.pipId
  process : r.process = request.process
  parent : r.parent = request.parent
  operation : r.operation = request.operation
  path : r.path = request.path
  decision : r.decision = d
  action : r.action = d.action
  level : r.level ≠ .ignore
  explicit : r.level = .reportExplicit ↔ r.policy.AsksReport request.operation
  resolved : d.reason ∉ [.internalFault, .tearingDown] →
    ∃ found, tree.resolve request.path = .ok found ∧ r.policy = found.policy
  unresolved : d.reason ∈ [.internalFault, .tearingDown] → r.policy = ∅

namespace Verdict

/-- What the policy asks for is reported explicitly, and nothing else. -/
theorem levelFor_eq_reportExplicit_iff {settings : Settings} {operation : Operation}
    {policy : PolicyBits} {covered : Bool} :
    levelFor settings operation policy covered = .reportExplicit ↔
      policy.AsksReport operation := by
  unfold levelFor PolicyBits.AsksReport
  split
  · rename_i hasked
    simp only [Bool.or_eq_true, Bool.and_eq_true, decide_eq_true_eq] at hasked
    exact iff_of_true rfl hasked
  · rename_i hasked
    simp only [Bool.or_eq_true, Bool.and_eq_true, decide_eq_true_eq] at hasked
    refine iff_of_false ?_ hasked
    split <;> decide

end Verdict

namespace Arbiter

/-- The report of a verdict tells of its decision. -/
theorem tells_report (a : Arbiter) (request : Request)
    (h : (a.judge request).1.decision.reported = true) :
    (a.report request (a.judge request).1).Tells a.tree a.settings request
      (a.judge request).1.decision := by
  have hforced (reason : Reason) (hreason : reason ∈ [.internalFault, .tearingDown]) :
      (a.report request (.failClosed reason)).Tells a.tree a.settings request
        (.failClosed reason) :=
    ⟨rfl, rfl, rfl, rfl, rfl, rfl, rfl, nofun, iff_of_false nofun PolicyBits.not_asksReport_empty,
      fun hresolved => absurd hreason hresolved, fun _ => rfl⟩
  rcases judge_cases a request with hjudge | hjudge | ⟨found, hfound, hjudge⟩
  · rw [hjudge]
    exact hforced .tearingDown (by decide)
  · rw [hjudge]
    exact hforced .internalFault (by decide)
  · rw [hjudge] at h ⊢
    have hlevel : (Verdict.ofResolution a.settings request found).level ≠ .ignore :=
      of_decide_eq_true h
    have hreason := Verdict.reason_ofResolution a.settings request found
    exact ⟨rfl, rfl, rfl, rfl, rfl, rfl, rfl, hlevel, Verdict.levelFor_eq_reportExplicit_iff,
      fun _ => ⟨found, hfound, rfl⟩,
      fun hforced => absurd (List.mem_cons_of_mem _ hforced) hreason⟩

/-- What is denied or unexpected is reported. -/
theorem reported_judge {a : Arbiter} {request : Request}
    (h : (a.judge request).1.decision.allowed = false ∨
      (a.judge request).1.decision.unexpected = true) :
    (a.judge request).1.decision.reported = true := by
  rcases judge_cases a request with hjudge | hjudge | ⟨found, -, hjudge⟩
  · rw [hjudge]
    rfl
  · rw [hjudge]
    rfl
  · rw [hjudge] at h ⊢
    have hcovered : request.isCoveredBy found.policy = false := by
      simp only [Verdict.ofResolution, Bool.or_eq_false_iff, Bool.not_eq_true'] at h
      exact h.elim And.left id
    exact decide_eq_true (Verdict.levelFor_ne_ignore_iff.2 (.inl hcovered))

/-! ## What a call adds to the inbox -/

/-- A later state of an arbiter, after some requests were decided: what was to be
reported of them has arrived, in order, and what the sink requested was passed through. -/
structure Delivers (a : Arbiter) (decided : List (Request × Decision)) (b : Arbiter) :
    Prop where
  job : b.SameJob a
  reports : ∃ arrived, b.inbox.reports = a.inbox.reports ++ arrived ∧
    List.Forall₂ (fun x r => r.Tells a.tree a.settings x.1 x.2)
      (decided.filter (·.2.reported)) arrived
  nested : ∃ answers, b.inbox.nested = a.inbox.nested ++ answers ∧
    ∀ ds ∈ answers, ∀ d ∈ ds, d = .passThrough

/-- A later state whose inbox is the same, where nothing is to be reported. -/
theorem Delivers.nothing {a b : Arbiter} {decided : List (Request × Decision)}
    (hnone : decided.filter (·.2.reported) = []) (hjob : b.SameJob a)
    (hreports : b.inbox.reports = a.inbox.reports) (hnested : b.inbox.nested = a.inbox.nested) :
    a.Delivers decided b := by
  refine ⟨hjob, ⟨[], ?_, ?_⟩, ⟨[], ?_, fun ds hds => absurd hds List.not_mem_nil⟩⟩
  · rw [hreports, List.append_nil]
  · rw [hnone]
    exact .nil
  · rw [hnested, List.append_nil]

theorem Delivers.append {a b c : Arbiter} {decided more : List (Request × Decision)}
    (h : a.Delivers decided b) (h' : b.Delivers more c) : a.Delivers (decided ++ more) c := by
  obtain ⟨arrived, harrived, htell⟩ := h.reports
  obtain ⟨arrived', harrived', htell'⟩ := h'.reports
  obtain ⟨answers, hanswers, hpassed⟩ := h.nested
  obtain ⟨answers', hanswers', hpassed'⟩ := h'.nested
  rw [h.job.tree, h.job.settings] at htell'
  refine ⟨h'.job.trans h.job, ⟨arrived ++ arrived', ?_, ?_⟩, ⟨answers ++ answers', ?_, ?_⟩⟩
  · rw [harrived', harrived, List.append_assoc]
  · rw [List.filter_append]
    exact List.rel_append htell htell'
  · rw [hanswers', hanswers, List.append_assoc]
  · intro ds hds
    rcases List.mem_append.1 hds with hfirst | hsecond
    · exact hpassed ds hfirst
    · exact hpassed' ds hsecond

variable {a : Arbiter} {requests : Inbox → Report → List Request}

/-- A sink that collects reports adds the one that it is handed. -/
theorem inbox_deliver (hsink : a.sink = .responding requests) (t : ProcessTable) (r : Report) :
    (deliver (fun a t _ => passThrough a t) a t r).1.inbox =
      (a.collect r (List.replicate (requests a.inbox r).length .passThrough)).inbox := by
  simp only [deliver, hsink, callEach_passThrough]
  rfl

/-- A call at the only level is decided and, if need be, reported. -/
theorem delivers_arbitrateAt_one (hsink : a.sink = .responding requests) (t : ProcessTable)
    (request : Request) :
    a.Delivers [(request, (a.arbitrateAt 1 t request).decision)]
      (a.arbitrateAt 1 t request).arbiter := by
  have hjob := sameJob_arbitrateAt a t 1 request
  rw [decision_arbitrateAt_one]
  by_cases hreported : (a.judge request).1.decision.reported = true
  · let r := a.report request (a.judge request).1
    have hinbox : (a.arbitrateAt 1 t request).arbiter.inbox =
        (a.collect r (List.replicate (requests a.inbox r).length .passThrough)).inbox := by
      rw [arbitrateAt_one, arbitrateOutermost]
      simp only [if_pos hreported]
      exact inbox_deliver (a := a.count _ _) hsink _ _
    have hkept : [(request, (a.judge request).1.decision)].filter (·.2.reported) =
        [(request, (a.judge request).1.decision)] := List.filter_cons_of_pos hreported
    refine ⟨hjob, ⟨[r], congrArg Inbox.reports hinbox, ?_⟩, ⟨_, congrArg Inbox.nested hinbox, ?_⟩⟩
    · rw [hkept]
      exact .cons (tells_report a request hreported) .nil
    · intro ds hds
      obtain rfl := List.mem_singleton.1 hds
      exact fun d hd => List.eq_of_mem_replicate hd
  · have hinbox : (a.arbitrateAt 1 t request).arbiter.inbox = a.inbox := by
      rw [arbitrateAt_one, arbitrateOutermost]
      simp only [if_neg hreported]
      rfl
    exact .nothing (List.filter_cons_of_neg hreported) hjob (congrArg Inbox.reports hinbox)
      (congrArg Inbox.nested hinbox)

/-- A call at any depth is decided and reported at the only level, and not at others. -/
theorem delivers_arbitrateAt (hsink : a.sink = .responding requests) (depth : Nat)
    (t : ProcessTable) (request : Request) :
    a.Delivers (if depth = 1 then [(request, (a.arbitrateAt depth t request).decision)] else [])
      (a.arbitrateAt depth t request).arbiter := by
  by_cases hdepth : depth = 1
  · rw [if_pos hdepth, hdepth]
    exact delivers_arbitrateAt_one hsink t request
  · rw [if_neg hdepth, arbitrateAt_of_ne_one hdepth]
    exact .nothing rfl ⟨rfl, rfl, rfl⟩ rfl rfl

/-- To tell a sink to finish adds nothing. -/
theorem delivers_tearDown (a : Arbiter) : a.Delivers [] a.tearDown.1 := by
  have hkept : a.tearDown.1.inbox.reports = a.inbox.reports ∧
      a.tearDown.1.inbox.nested = a.inbox.nested := by
    unfold tearDown
    split
    · exact ⟨rfl, rfl⟩
    · split <;> exact ⟨rfl, rfl⟩
  exact .nothing rfl a.sameJob_tearDown hkept.1 hkept.2

end Arbiter

/-- Whether an act tears down the arbiter in a seat. -/
def Act.tearsDown (seat : Nat) : Act → Bool
  | .tearDown i => i = seat
  | _ => false

namespace Session

/-! ## Runs -/

/-- The request that an act has an arbiter decide at the only level, with the decision. -/
def decided? (s : Session) (seat : Nat) : Act → Option (Request × Decision)
  | .arbitrate i guard request =>
      if i = seat ∧ s.IsSole guard then
        match (s.perform (.arbitrate i guard request)).answer with
        | .decision d => some (request, d)
        | _ => none
      else none
  | _ => none

/-- The requests that a run has an arbiter decide at the only level, with the decisions. -/
def decided (s : Session) (seat : Nat) : List Act → List (Request × Decision)
  | [] => []
  | act :: acts =>
      (s.decided? seat act).toList ++ (s.perform act).session.decided seat acts

variable {s : Session} {seat k : Nat} {a : Arbiter} {requests : Inbox → Report → List Request}

theorem seats_onTable (s : Session) (table : Nat)
    (f : ProcessTable → Answer × ProcessTable × List Event) :
    (s.onTable table f).session.seats = s.seats := by
  unfold onTable
  split <;> rfl

/-- A request to one arbiter leaves the others alone. -/
theorem seats_arbitrateAt_of_ne {i : Nat} (h : i ≠ seat) (s : Session) (depth : Nat)
    (request : Request) :
    (s.arbitrateAt i depth request).session.seats[seat]? = s.seats[seat]? := by
  unfold arbitrateAt
  split
  · rfl
  · split
    · rfl
    · exact List.getElem?_set_ne h

/-- A request adds to the inbox of its arbiter the report of its decision, if it is made
at the only level. -/
theorem delivers_request (hseat : s.seats[seat]? = some ⟨a, k⟩)
    (hsink : a.sink = .responding requests) (i : Nat) (guard : Option Nat) (request : Request) :
    ∃ b, (s.perform (.arbitrate i guard request)).session.seats[seat]? = some ⟨b, k⟩ ∧
      a.Delivers (s.decided? seat (.arbitrate i guard request)).toList b := by
  have hnothing : a.Delivers [] a := .nothing rfl (.refl a) rfl rfl
  rcases perform_arbitrate s i guard request with ⟨hsole, hperform⟩ | ⟨depth, hdepth, hperform⟩
  · rw [decided?, if_neg (fun h => hsole h.2), hperform]
    exact ⟨a, hseat, hnothing⟩
  · by_cases hi : i = seat
    · subst hi
      cases htable : s.tables[k]? with
      | none =>
          have hrefused : s.perform (.arbitrate i guard request) = s.refuse := by
            simp only [hperform, arbitrateAt, hseat, htable]
          simp only [decided?, hrefused, refuse, ite_self]
          exact ⟨a, hseat, hnothing⟩
      | some t =>
          have hlt := (List.getElem?_eq_some_iff.1 hseat).1
          have hdelivers := Arbiter.delivers_arbitrateAt hsink depth t request
          refine ⟨(a.arbitrateAt depth t request).arbiter, ?_, ?_⟩
          · simp only [hperform, arbitrateAt, hseat, htable]
            exact List.getElem?_set_self hlt
          · simp only [decided?, ← hdepth, true_and, hperform, arbitrateAt, hseat, htable]
            split
            · rwa [if_pos ‹_›] at hdelivers
            · rwa [if_neg ‹_›] at hdelivers
    · rw [decided?, if_neg (fun h => hi h.1), hperform]
      exact ⟨a, (seats_arbitrateAt_of_ne hi s depth request).trans hseat, hnothing⟩

/-- An act that is no request leaves an arbiter as it is, unless it tears it down. -/
theorem getElem?_seats_perform (hseat : s.seats[seat]? = some ⟨a, k⟩) {act : Act}
    (hact : act.isRequest = false) :
    (s.perform act).session.seats[seat]? =
      some ⟨if act.tearsDown seat then a.tearDown.1 else a, k⟩ := by
  cases act with
  | arbitrate i guard request => cases hact
  | tearDown i =>
      by_cases hi : i = seat
      · subst hi
        have hlt := (List.getElem?_eq_some_iff.1 hseat).1
        simp only [perform, hseat, Act.tearsDown, decide_true, if_true]
        exact List.getElem?_set_self hlt
      · simp only [perform, Act.tearsDown, decide_eq_false hi]
        split
        · exact hseat
        · exact (List.getElem?_set_ne hi).trans hseat
  | enter => exact hseat
  | leave guard =>
      simp only [perform]
      split <;> exact hseat
  | register table pid parent => rw [perform, seats_onTable, hseat]; rfl
  | record table pid cls bytes => rw [perform, seats_onTable, hseat]; rfl
  | retire table root => rw [perform, seats_onTable, hseat]; rfl

/-- An act that is no request leaves an arbiter as it is, or tears it down. -/
theorem seat_perform (hseat : s.seats[seat]? = some ⟨a, k⟩) {act : Act}
    (hact : act.isRequest = false) :
    ∃ b, (s.perform act).session.seats[seat]? = some ⟨b, k⟩ ∧ (b = a ∨ b = a.tearDown.1) := by
  refine ⟨_, getElem?_seats_perform hseat hact, ?_⟩
  cases act.tearsDown seat with
  | true => exact .inr rfl
  | false => exact .inl rfl

/-- What one act adds to the inbox of an arbiter. -/
theorem delivers_perform (hseat : s.seats[seat]? = some ⟨a, k⟩)
    (hsink : a.sink = .responding requests) (act : Act) :
    ∃ b, (s.perform act).session.seats[seat]? = some ⟨b, k⟩ ∧
      a.Delivers (s.decided? seat act).toList b := by
  have hother (hact : act.isRequest = false) :
      ∃ b, (s.perform act).session.seats[seat]? = some ⟨b, k⟩ ∧ a.Delivers [] b := by
    obtain ⟨b, hb, rfl | rfl⟩ := seat_perform hseat hact
    · exact ⟨b, hb, .nothing rfl (.refl b) rfl rfl⟩
    · exact ⟨_, hb, a.delivers_tearDown⟩
  cases act with
  | arbitrate i guard request => exact delivers_request hseat hsink i guard request
  | tearDown i => exact hother rfl
  | enter => exact hother rfl
  | leave guard => exact hother rfl
  | register table pid parent => exact hother rfl
  | record table pid cls bytes => exact hother rfl
  | retire table root => exact hother rfl

/-- What a run adds to it. -/
theorem delivers_after (hseat : s.seats[seat]? = some ⟨a, k⟩)
    (hsink : a.sink = .responding requests) (acts : List Act) :
    ∃ b, (s.after acts).seats[seat]? = some ⟨b, k⟩ ∧ a.Delivers (s.decided seat acts) b := by
  induction acts generalizing s a with
  | nil => exact ⟨a, hseat, .nothing rfl (.refl a) rfl rfl⟩
  | cons act acts ih =>
      obtain ⟨b, hb, hfirst⟩ := delivers_perform hseat hsink act
      obtain ⟨c, hc, hrest⟩ := ih hb (hfirst.job.sink.trans hsink)
      exact ⟨c, hc, hfirst.append hrest⟩

/-- A decision of any arbiter that denies or is unexpected is to be reported. -/
theorem reported_of_answer {i : Nat} {guard : Option Nat} {request : Request} {d : Decision}
    (h : (s.perform (.arbitrate i guard request)).answer = .decision d)
    (hd : d.allowed = false ∨ d.unexpected = true) : d.reported = true := by
  rcases arbitrate_cases s i guard request with
    ⟨b, k, t, -, -, -, hanswer, -⟩ | ⟨-, hrefused | ⟨hpassed, -⟩⟩
  · obtain rfl := Answer.decision.inj (hanswer.symm.trans h)
    exact Arbiter.reported_judge hd
  · cases hrefused.symm.trans h
  · obtain rfl := Answer.decision.inj (hpassed.symm.trans h)
    exact absurd hd (by decide)

/-- **Reporting**: take a run of any acts in which an arbiter with a sink that collects
reports, and makes whatever requests of its own, has done nothing at first.  The reports
that have arrived at its end tell, one by one and in order, of those decisions at the
only level that are to be reported, and the sink's own requests were all passed through.
No access that is denied or unexpected goes unreported. -/
theorem reports_faithful {tree : ScopeTree} {settings : Settings}
    (hseat : s.seats[seat]? = some ⟨.create tree settings (.responding requests), k⟩)
    (acts : List Act) :
    (∃ b, (s.after acts).seats[seat]? = some ⟨b, k⟩ ∧
      List.Forall₂ (fun x r => r.Tells tree settings x.1 x.2)
        ((s.decided seat acts).filter (·.2.reported)) b.inbox.reports ∧
      ∀ ds ∈ b.inbox.nested, ∀ d ∈ ds, d = .passThrough) ∧
    ∀ i guard request d,
      ((s.after acts).perform (.arbitrate i guard request)).answer = .decision d →
      d.allowed = false ∨ d.unexpected = true → d.reported = true := by
  constructor
  · obtain ⟨b, hb, hdelivers⟩ := delivers_after hseat rfl acts
    obtain ⟨arrived, harrived, htell⟩ := hdelivers.reports
    obtain ⟨answers, hanswers, hpassed⟩ := hdelivers.nested
    refine ⟨b, hb, ?_, ?_⟩
    · rw [harrived]
      exact htell
    · rw [hanswers]
      exact hpassed
  · intro i guard request d hanswer hd
    exact reported_of_answer hanswer hd

/-- The arbiter of the sample tree in strict mode, with a sink that writes what it is
handed to the path of the access. -/
def echoingSession : Session :=
  Session.empty.addArbiter
    (.create ScopeTree.sampleTree ⟨7, .strict, false⟩
      (.responding fun _ r => [⟨r.path, .write, r.process, none, 48, true⟩])) true

/-- A read that is covered; then the sample request three times, as part of a level that
is held, on that level, and when the arbiter is tearing down. -/
def echoingActs : List Act :=
  [.arbitrate 0 none ⟨"/src", .read, 40, none, 9, true⟩, .enter,
    .arbitrate 0 none ScopeTree.sampleRequest, .arbitrate 0 (some 0) ScopeTree.sampleRequest,
    .leave 0, .tearDown 0, .arbitrate 0 none ScopeTree.sampleRequest]

/-- Of these acts the last two requests are reported, and only they. -/
theorem reports_faithful_sample :
    echoingSession.decided 0 echoingActs =
        [(⟨"/src", .read, 40, none, 9, true⟩, ⟨true, false, false, 0, .granted⟩),
          (ScopeTree.sampleRequest, ⟨false, true, true, 3, .noCoveringGrant⟩),
          (ScopeTree.sampleRequest, .failClosed .tearingDown)] ∧
      ∃ b r r', (echoingSession.after echoingActs).seats[0]? = some ⟨b, 0⟩ ∧
        b.inbox.reports = [r, r'] ∧
        r.Tells ScopeTree.sampleTree ⟨7, .strict, false⟩ ScopeTree.sampleRequest
          ⟨false, true, true, 3, .noCoveringGrant⟩ ∧
        r'.Tells ScopeTree.sampleTree ⟨7, .strict, false⟩ ScopeTree.sampleRequest
          (.failClosed .tearingDown) := by
  have hdecided : echoingSession.decided 0 echoingActs =
      [(⟨"/src", .read, 40, none, 9, true⟩, ⟨true, false, false, 0, .granted⟩),
        (ScopeTree.sampleRequest, ⟨false, true, true, 3, .noCoveringGrant⟩),
        (ScopeTree.sampleRequest, .failClosed .tearingDown)] := by
    decide +kernel
  have hseat : echoingSession.seats[0]? =
      some ⟨.create ScopeTree.sampleTree ⟨7, .strict, false⟩
        (.responding fun _ r => [⟨r.path, .write, r.process, none, 48, true⟩]), 0⟩ := rfl
  obtain ⟨⟨b, hb, htell, -⟩, -⟩ := reports_faithful hseat echoingActs
  have hreported : (echoingSession.decided 0 echoingActs).filter (·.2.reported) =
      [(ScopeTree.sampleRequest, ⟨false, true, true, 3, .noCoveringGrant⟩),
        (ScopeTree.sampleRequest, .failClosed .tearingDown)] := by
    rw [hdecided]
    rfl
  rw [hreported] at htell
  obtain ⟨r, _, hr, htail, hreports⟩ := List.forall₂_cons_left_iff.1 htell
  obtain ⟨r', _, hr', hnil, rfl⟩ := List.forall₂_cons_left_iff.1 htail
  obtain rfl := List.forall₂_nil_left_iff.1 hnil
  exact ⟨hdecided, b, r, r', hb, hreports, hr, hr'⟩

end Session

end AccessPolicy
