import AccessPolicy.Proofs.Verdicts

/-!
# AccessPolicy.Proofs.Untracked

Paths whose accesses need not be followed at all.

A policy is *untracked* when it has every permission, no veto and no bit that asks for a
report.  That is said of the bits alone; what it means for an access is said by the rules
for deciding:

1. the access is covered, whatever the operation, so that both modes allow it as granted;
2. no rule asks for a report of it, so that nothing reaches the sink, unless all accesses
   are reported.

What a path hands on is the policy of everything below it up to the next rule, so that an
untracked cone covers all of that.

* `isUntracked_iff` — what the bits of an untracked policy are;
* `decision_of_isUntracked` — rules 1 and 2, for the verdict on a resolved path;
* `policy_below` — as long as there is no rule, the policy below a path is its cone;
* `untracked_unnoticed` — requests for untracked paths pass unnoticed, in any session.
-/

namespace AccessPolicy

/-! ## Untracked policies -/

namespace PolicyBits

/-- An untracked policy has every permission, no veto, and asks for no report. -/
theorem isUntracked_iff {b : PolicyBits} : b.isUntracked = true ↔
    b.contains allowAll = true ∧ b.contains deny = false ∧ b.contains reportAccess = false ∧
      b.contains reportDirectoryEnumeration = false := by
  have haccess (i : Nat) : reportAccess.bit i = decide (6 = i) :=
    bit_flag (n := 6) rfl (by decide) i
  have hlisting (i : Nat) : reportDirectoryEnumeration.bit i = decide (7 = i) :=
    bit_flag (n := 7) rfl (by decide) i
  have hmeets : b.meets (reportAccess ∪ reportDirectoryEnumeration) = true ↔
      b.contains reportAccess = true ∨ b.contains reportDirectoryEnumeration = true := by
    simp [meets_iff, contains_iff, haccess, hlisting, and_or_left, exists_or]
  rw [isUntracked, Bool.and_eq_true, Bool.and_eq_true, Bool.not_eq_true', Bool.not_eq_true',
    ← Bool.not_eq_true (b.meets _), hmeets, not_or, Bool.not_eq_true, Bool.not_eq_true, and_assoc]

end PolicyBits

theorem Operation.contains_allowAll_required (op : Operation) :
    PolicyBits.allowAll.contains op.required = true := by
  cases op <;> decide

/-- An untracked policy covers every request. -/
theorem Request.covered_of_isUntracked {policy : PolicyBits} (h : policy.isUntracked = true)
    (r : Request) : r.isCoveredBy policy = true := by
  obtain ⟨hall, hveto, -⟩ := PolicyBits.isUntracked_iff.1 h
  exact isCoveredBy_iff.2
    ⟨hveto, .inl (PolicyBits.contains_trans hall r.operation.contains_allowAll_required)⟩

/-- What is requested under an untracked policy is granted and not reported, in either mode. -/
theorem Verdict.decision_of_isUntracked {settings : Settings} (hall : settings.reportAll = false)
    (request : Request) {found : Resolution} (h : found.policy.isUntracked = true) :
    (ofResolution settings request found).decision =
      ⟨true, false, false, UInt16.ofNat found.matchedDepth, .granted⟩ := by
  have hcovered := request.covered_of_isUntracked h
  obtain ⟨-, -, haccess, hlisting⟩ := PolicyBits.isUntracked_iff.1 h
  simp [ofResolution, levelFor, hcovered, haccess, hlisting, hall]

/-! ## Below a path -/

namespace RuleMap

variable {m : RuleMap} {path rest : List String}

/-- As long as there is no rule, what a path hands on stays the same below it. -/
theorem cone_below
    (hnone : ∀ pre, pre <+: path ++ rest → path.length < pre.length → m.rule? pre = none) :
    m.cone (path ++ rest) = m.cone path := by
  induction rest using List.reverseRecOn with
  | nil => rw [List.append_nil]
  | append_singleton rest x ih =>
      rw [← List.append_assoc] at hnone ⊢
      have hrule := hnone _ (List.prefix_refl _) (by simp)
      rw [cone_concat_of_none m (by rw [inherited?, hrule]; rfl)]
      exact ih fun pre hpre => hnone pre (hpre.trans (List.prefix_append _ _))

/-- As long as there is no rule, the policy below a path is what the path hands on. -/
theorem policy_below (hbelow : rest ≠ [])
    (hnone : ∀ pre, pre <+: path ++ rest → path.length < pre.length → m.rule? pre = none) :
    m.policy (path ++ rest) = m.cone path := by
  have hrule := hnone _ (List.prefix_refl _) (by simp [List.length_pos_iff.2 hbelow])
  rw [policy_of_no_exact (by simp [hrule]), cone_below hnone]

end RuleMap

/-! ## Calls -/

namespace Arbiter

/-- A call that is not to be reported reaches no sink and logs at most a denial, a fault or
a count that starts again. -/
theorem arbitrateAt_one_of_not_reported (a : Arbiter) (t : ProcessTable) {request : Request}
    {v : Verdict} {fault : Option PathError} (hjudge : a.judge request = (v, fault))
    (h : v.decision.reported = false) :
    a.arbitrateAt 1 t request =
      ⟨v.decision, none, a.count v.decision fault, account v.decision request t,
        verdictEvents v.decision fault request t⟩ := by
  rw [arbitrateAt_one, arbitrateOutermost, hjudge]
  simp [h]

end Arbiter

namespace Session

/-- A request to an arbiter passes unnoticed: it is allowed as granted, and of it there is
no report, nothing that arrives at the sink, and no event but that a count starts again. -/
structure PassesUnnoticed (s : Session) (seat : Nat) (step : Step) : Prop where
  answer : ∃ d, step.answer = .decision d ∧
    d.allowed = true ∧ d.reported = false ∧ d.unexpected = false ∧ d.reason = .granted
  report : step.report = none
  inbox : (step.session.seats[seat]?).map (·.arbiter.inbox) =
    (s.seats[seat]?).map (·.arbiter.inbox)
  events : ∀ e ∈ step.events, ∃ pid cls, e = .countReset pid cls

variable {s : Session} {seat k : Nat} {a : Arbiter} {t : ProcessTable} {guard : Option Nat}

/-- A request for an untracked path passes unnoticed at the only level. -/
theorem passesUnnoticed (hseat : s.seats[seat]? = some ⟨a, k⟩) (htable : s.tables[k]? = some t)
    (hsole : s.IsSole guard) (hlive : a.tearingDown = false)
    (hall : a.settings.reportAll = false) {request : Request} {found : Resolution}
    (hfound : a.tree.resolve request.path = .ok found) (h : found.policy.isUntracked = true) :
    s.PassesUnnoticed seat (s.perform (.arbitrate seat guard request)) := by
  have hjudge : a.judge request = (.ofResolution a.settings request found, none) := by
    simp [Arbiter.judge, hlive, hfound]
  have hdecision := Verdict.decision_of_isUntracked hall request h
  have hcall := a.arbitrateAt_one_of_not_reported t hjudge (by rw [hdecision])
  rw [perform_of_isSole hsole, arbitrateAt, hseat]
  simp only [htable, hcall, hdecision]
  refine ⟨⟨_, rfl, rfl, rfl, rfl, rfl⟩, rfl, ?_, fun e he => ?_⟩
  · rw [List.getElem?_set_self (List.getElem?_eq_some_iff.1 hseat).1]
    simp [hseat, Arbiter.count]
  · simp only [Arbiter.verdictEvents, Option.map_none, Option.toList_none, if_true,
      List.nil_append, List.mem_ite_nil_right, List.mem_singleton] at he
    exact ⟨_, _, he.2⟩

open ScopeTree

/-- **Untracked paths**: take an arbiter with the tree of some directives that is not tearing
down and does not report all accesses, in whatever state and mode it is.  Where the policy of
a path is untracked, every request for the path at the only level passes unnoticed.  Where
what the path hands on is untracked, so does every request for a longer path, if no rule
stands on the way there below the path. -/
theorem untracked_unnoticed {case : PathCase} {ds : List Directive}
    (hseat : s.seats[seat]? = some ⟨a, k⟩) (htable : s.tables[k]? = some t)
    (hsole : s.IsSole guard) (htree : ofDirectives case ds = .ok a.tree)
    (hlive : a.tearingDown = false) (hall : a.settings.reportAll = false)
    {text : String} {path : List String} (hpath : Path.components text = .ok path) :
    ∃ found, a.tree.resolve text = .ok found ∧
      (found.policy.isUntracked = true → ∀ request : Request, request.path = text →
        s.PassesUnnoticed seat (s.perform (.arbitrate seat guard request))) ∧
      (found.cone.isUntracked = true → ∀ (request : Request) (rest : List String), rest ≠ [] →
        Path.components request.path = .ok (path ++ rest) →
        (∀ pre, pre <+: path ++ rest → path.length < pre.length →
          (RuleMap.ofDirectives case ds).rule? pre = none) →
        s.PassesUnnoticed seat (s.perform (.arbitrate seat guard request))) := by
  have hfound {text : String} {path : List String} (hpath : Path.components text = .ok path) :
      a.tree.resolve text = .ok (a.tree.resolveComponents path) := by
    rw [resolve, hpath]
    rfl
  refine ⟨_, hfound hpath, fun h request hrequest => ?_,
    fun h request rest hbelow hrequest hnone => ?_⟩
  · subst hrequest
    exact passesUnnoticed hseat htable hsole hlive hall (hfound hpath) h
  · refine passesUnnoticed hseat htable hsole hlive hall (hfound hrequest) ?_
    rw [(resolveComponents_agrees htree _).policy, RuleMap.policy_below hbelow hnone,
      ← (resolveComponents_agrees htree path).cone]
    exact h

/-- Directives with an untracked scope, where all accesses to the rest are reported. -/
def outputDirectives : List Directive :=
  [⟨"/", ⟨.maskAll, .allowRead ∪ .reportAccess, .scope⟩⟩, ⟨"/out", ⟨.maskAll, .allowAll, .scope⟩⟩]

/-- The tree of these directives. -/
def outputTree : ScopeTree :=
  ⟨.sensitive, ⟨.maskAll, .allowRead ∪ .reportAccess, .scope⟩,
    .cons "out" "out" (some ⟨.maskAll, .allowAll, .scope⟩) .nil .nil⟩

/-- The arbiter of this tree in strict mode, with a sink that writes what it is handed to the
path of the access. -/
def outputSession : Session :=
  Session.empty.addArbiter
    (.create outputTree ⟨7, .strict, false⟩
      (.responding fun _ r => [⟨r.path, .write, r.process, none, 48, true⟩])) true

/-- Probing the untracked scope and writing below it pass unnoticed. -/
theorem untracked_unnoticed_sample :
    ofDirectives .sensitive outputDirectives = .ok outputTree ∧
      outputSession.PassesUnnoticed 0
        (outputSession.perform (.arbitrate 0 none ⟨"/out", .probe, 40, none, 0, true⟩)) ∧
      outputSession.PassesUnnoticed 0
        (outputSession.perform (.arbitrate 0 none ⟨"/out/obj/a", .write, 40, none, 9, true⟩)) := by
  have htree : ofDirectives .sensitive outputDirectives = .ok outputTree := rfl
  have hsole : outputSession.IsSole none := by decide
  have hpath : Path.components "/out" = .ok ["out"] := rfl
  have hbelow : Path.components "/out/obj/a" = .ok (["out"] ++ ["obj", "a"]) := rfl
  have hnone : ∀ pre, pre <+: ["out"] ++ ["obj", "a"] → ["out"].length < pre.length →
      (RuleMap.ofDirectives .sensitive outputDirectives).rule? pre = none := by
    simp only [← List.mem_inits]
    decide +kernel
  have hseat : outputSession.seats[0]? =
      some ⟨.create outputTree ⟨7, .strict, false⟩ (.responding _), 0⟩ := rfl
  obtain ⟨found, hfound, hat, hcone⟩ := untracked_unnoticed hseat rfl hsole htree rfl rfl hpath
  obtain rfl : outputTree.resolveComponents ["out"] = found := Except.ok.inj hfound
  exact ⟨htree, hat rfl _ rfl, hcone rfl _ _ (by decide) hbelow hnone⟩

end Session

end AccessPolicy
