import AccessPolicy.Accounting.ProcessTable
import AccessPolicy.Event
import AccessPolicy.Manifest

/-!
# AccessPolicy.Arbiter

The arbiter of a job: it decides every access, counts what it allows and reports
what has to be reported.

One access often brings about others on its way: an open that looks up
attributes, a report that is itself written to a file.  Only the outermost one
is decided.  A call made while another level is entered is passed through, and
so is every call that a sink makes while it is handed a report.

* `arbitrateAt_of_ne_one` — a call that is not the only level is passed through;
* `arbitrateAt_one` — one that is the only level is decided, and what its sink
  requests is passed through.
-/

namespace AccessPolicy

/-! ## Verdicts -/

/-- A decision with what is needed to report it. -/
structure Verdict where
  decision : Decision
  policy : PolicyBits
  level : ReportLevel
  deriving DecidableEq, Repr

namespace Verdict

/-- The verdict where a policy cannot be relied upon. -/
def failClosed (reason : Reason) : Verdict := ⟨.failClosed reason, ∅, .report⟩

/-- How prominently an access under a policy is reported. -/
def levelFor (settings : Settings) (operation : Operation) (policy : PolicyBits)
    (covered : Bool) : ReportLevel :=
  if policy.contains .reportAccess ||
      (operation = .enumerateDirectory && policy.contains .reportDirectoryEnumeration) then
    .reportExplicit
  else if !covered || settings.reportAll then .report
  else .ignore

/-- The verdict on a request whose path has been resolved. -/
def ofResolution (settings : Settings) (request : Request) (found : Resolution) : Verdict :=
  let policy := found.policy
  let covered := request.isCoveredBy policy
  let level := levelFor settings request.operation policy covered
  let decision :=
    { allowed := covered || settings.mode = .permissive
      reported := level ≠ .ignore
      unexpected := !covered
      matchedDepth := UInt16.ofNat found.matchedDepth
      reason :=
        if covered then .granted
        else if policy.contains .deny then .explicitDeny
        else .noCoveringGrant }
  ⟨decision, policy, level⟩

end Verdict

/-! ## Arbiters -/

/-- What an arbiter has done so far. -/
structure Stats where
  /-- Accesses decided. -/
  arbitrated : Nat
  /-- Calls passed through. -/
  suppressed : Nat
  /-- Accesses denied. -/
  denied : Nat
  /-- Accesses reported. -/
  reported : Nat
  /-- Accesses whose policy could not be determined. -/
  faults : Nat
  deriving DecidableEq, Repr

/-- Nothing done yet. -/
def Stats.zero : Stats := ⟨0, 0, 0, 0, 0⟩

/-- What has arrived at a sink. -/
structure Inbox where
  /-- The reports collected. -/
  reports : List Report
  /-- For each report, the decisions on the requests that the sink made. -/
  nested : List (List Decision)
  /-- How often the sink was told to finish. -/
  flushes : Nat
  deriving DecidableEq, Repr

/-- Nothing arrived yet. -/
def Inbox.empty : Inbox := ⟨[], [], 0⟩

/-- Where reports go. -/
inductive Sink where
  /-- Into a list.  For every report, the sink first makes some requests of its own,
  in view of the report and of all that arrived before. -/
  | responding (requests : Inbox → Report → List Request)
  /-- Nowhere: the sink panics. -/
  | panicking (payload : Report → PanicPayload)
  /-- Into the log. -/
  | logging

/-- The sink that makes the same requests for every report. -/
def Sink.collecting (requests : List Request) : Sink := .responding fun _ _ => requests

/-- The arbiter of a job. -/
structure Arbiter where
  tree : ScopeTree
  settings : Settings
  sink : Sink
  stats : Stats
  tearingDown : Bool
  inbox : Inbox

/-- What a call of an arbiter leaves behind. -/
structure Outcome where
  decision : Decision
  /-- The report that was handed to the sink. -/
  report : Option Report
  arbiter : Arbiter
  table : ProcessTable
  events : List Event

namespace Arbiter

/-- An arbiter that has done nothing yet. -/
def create (tree : ScopeTree) (settings : Settings) (sink : Sink) : Arbiter :=
  ⟨tree, settings, sink, .zero, false, .empty⟩

/-- An arbiter in words. -/
def describe (a : Arbiter) : String :=
  "AccessArbiter \x7b nodes: " ++ toString a.tree.nodeCount ++
    ", config: ArbiterConfig \x7b pip_id: " ++ toString a.settings.pipId.toNat ++
    ", mode: " ++ a.settings.mode.title ++
    ", report_all_accesses: " ++ toString a.settings.reportAll ++
    " \x7d, tearing_down: " ++ toString a.tearingDown ++ ", .. \x7d"

/-! ## Deciding -/

/-- The verdict on a request, and the error in its path that forced it. -/
def judge (a : Arbiter) (request : Request) : Verdict × Option PathError :=
  if a.tearingDown then (.failClosed .tearingDown, none)
  else
    match a.tree.resolve request.path with
    | .ok found => (.ofResolution a.settings request found, none)
    | .error e => (.failClosed .internalFault, some e)

/-- Count a verdict. -/
def count (a : Arbiter) (decision : Decision) (fault : Option PathError) : Arbiter :=
  { a with
    stats :=
      { a.stats with
        arbitrated := a.stats.arbitrated + 1
        denied := a.stats.denied + (!decision.allowed).toNat
        reported := a.stats.reported + decision.reported.toNat
        faults := a.stats.faults + fault.isSome.toNat } }

/-- Count a call that was passed through. -/
def countSuppressed (a : Arbiter) : Arbiter :=
  { a with stats := { a.stats with suppressed := a.stats.suppressed + 1 } }

/-- The report of a verdict. -/
def report (a : Arbiter) (request : Request) (v : Verdict) : Report where
  pipId := a.settings.pipId
  process := request.process
  parent := request.parent
  operation := request.operation
  path := request.path
  decision := v.decision
  policy := v.policy
  level := v.level
  action := v.decision.action

/-- The table after a verdict: what is allowed is counted. -/
def account (decision : Decision) (request : Request) (t : ProcessTable) : ProcessTable :=
  if decision.allowed then
    t.record request.process request.parent request.operation.ioClass request.bytes
  else t

/-- What is logged of a verdict before it is reported. -/
def verdictEvents (decision : Decision) (fault : Option PathError) (request : Request)
    (t : ProcessTable) : List Event :=
  (fault.map (Event.requestMalformed request)).toList ++
    if decision.allowed then
      if t.recordResets request.process request.operation.ioClass request.bytes then
        [.countReset request.process request.operation.ioClass]
      else []
    else [.accessDenied request decision.reason]

/-- What the log says of a report that is sent there. -/
def reportEvent (r : Report) : Event :=
  if r.action = .deny then .deniedReport r else .otherReport r

/-! ## Reporting -/

/-- What several calls of an arbiter, one after the other, leave behind. -/
structure Outcomes where
  decisions : List Decision
  arbiter : Arbiter
  table : ProcessTable
  events : List Event

/-- Make several calls, one after the other. -/
def callEach (call : Arbiter → ProcessTable → Request → Outcome) (a : Arbiter)
    (t : ProcessTable) : List Request → Outcomes
  | [] => ⟨[], a, t, []⟩
  | q :: qs =>
      let first := call a t q
      let rest := callEach call first.arbiter first.table qs
      { rest with
        decisions := first.decision :: rest.decisions
        events := first.events ++ rest.events }

/-- Add a collected report, with the decisions that its delivery brought about. -/
def collect (a : Arbiter) (r : Report) (decisions : List Decision) : Arbiter :=
  { a with
    inbox :=
      { a.inbox with
        reports := a.inbox.reports ++ [r]
        nested := a.inbox.nested ++ [decisions] } }

/-- Hand a report to the sink, which makes its requests by `call`. -/
def deliver (call : Arbiter → ProcessTable → Request → Outcome) (a : Arbiter)
    (t : ProcessTable) (r : Report) : Arbiter × ProcessTable × List Event :=
  match a.sink with
  | .logging => (a, t, [reportEvent r])
  | .panicking payload => (a, t, [.reportLost r.path (payload r)])
  | .responding requests =>
      let made := callEach call a t (requests a.inbox r)
      (made.arbiter.collect r made.decisions, made.table, made.events)

/-! ## Calls -/

/-- A call that is part of another one. -/
def passThrough (a : Arbiter) (t : ProcessTable) : Outcome :=
  ⟨.passThrough, none, a.countSuppressed, t, []⟩

/-- Decide a request that is part of no other one. -/
def arbitrateOutermost (call : Arbiter → ProcessTable → Request → Outcome) (a : Arbiter)
    (t : ProcessTable) (request : Request) : Outcome :=
  let (v, fault) := a.judge request
  let counted := a.count v.decision fault
  let table := account v.decision request t
  let events := verdictEvents v.decision fault request t
  if v.decision.reported then
    let r := a.report request v
    let (after, table, more) := deliver call counted table r
    ⟨v.decision, some r, after, table, events ++ more⟩
  else ⟨v.decision, none, counted, table, events⟩

/-- Decide a request made at a depth of entered levels, its own included.  What a sink
requests is one level deeper. -/
def arbitrateAt (depth : Nat) (a : Arbiter) (t : ProcessTable) (request : Request) : Outcome :=
  if _h : depth = 1 then
    arbitrateOutermost (fun a t q => arbitrateAt (depth + 1) a t q) a t request
  else passThrough a t
termination_by if depth = 1 then 1 else 0
decreasing_by simp [_h]

/-- A call that is not the only level is passed through. -/
theorem arbitrateAt_of_ne_one {depth : Nat} (h : depth ≠ 1) (a : Arbiter) (t : ProcessTable)
    (request : Request) : arbitrateAt depth a t request = passThrough a t := by
  rw [arbitrateAt, dif_neg h]

/-- At the only level a request is decided, and those of the sink are passed through. -/
theorem arbitrateAt_one (a : Arbiter) (t : ProcessTable) (request : Request) :
    arbitrateAt 1 a t request =
      arbitrateOutermost (fun a t _ => passThrough a t) a t request := by
  rw [arbitrateAt, dif_pos rfl]
  congr 1
  funext a t q
  exact arbitrateAt_of_ne_one (by decide) a t q

/-- Decide a request that enters a level of its own below the `live` ones. -/
def arbitrate (live : Nat) (a : Arbiter) (t : ProcessTable) (request : Request) : Outcome :=
  arbitrateAt (live + 1) a t request

/-- Admit no more accesses.  The sink is told to finish the first time. -/
def tearDown (a : Arbiter) : Arbiter × List Event :=
  if a.tearingDown then (a, [])
  else
    let inbox := match a.sink with
      | .logging => a.inbox
      | _ => { a.inbox with flushes := a.inbox.flushes + 1 }
    ({ a with tearingDown := true, inbox },
      [.tearingDown a.settings.pipId a.stats.arbitrated a.stats.denied a.stats.reported])

end Arbiter

end AccessPolicy
