import AccessPolicy.Proofs.Resolution
import AccessPolicy.Proofs.Runs

/-!
# AccessPolicy.Proofs.Verdicts

From the directives of a job to the decision on an access.

A decision *follows* a policy when each of its fields is the one that the rules for
deciding give:

1. the access is unexpected iff the policy does not cover it;
2. in strict mode exactly what is covered is allowed, in permissive mode everything;
3. it is reported if it is unexpected, if the policy asks for it, or if everything is;
4. the reason says whether it is covered, vetoed or merely not granted.

* `decision_ofResolution` — the verdict on a resolved path follows its policy;
* `arbitrate_follows_rules` — in every run, the decision on a request at the only level
  follows the policy that the directives give its path.
-/

namespace AccessPolicy

/-! ## Cover -/

/-- A policy covers a request if it carries no veto and grants what the operation
requires.  To read or probe where there is nothing, the permission for that will do. -/
def Request.Covered (r : Request) (policy : PolicyBits) : Prop :=
  policy.contains .deny = false ∧
    (policy.contains r.operation.required = true ∨
      (r.targetExists = false ∧ (r.operation = .read ∨ r.operation = .probe) ∧
        policy.contains .allowReadIfNonexistent = true))

instance (r : Request) (policy : PolicyBits) : Decidable (r.Covered policy) :=
  inferInstanceAs (Decidable (_ ∧ _))

theorem Operation.asksForContent_iff {op : Operation} :
    op.asksForContent = true ↔ op = .read ∨ op = .probe := by
  cases op <;> decide

theorem Request.isCoveredBy_iff {r : Request} {policy : PolicyBits} :
    r.isCoveredBy policy = true ↔ r.Covered policy := by
  simp only [isCoveredBy, coveredBy, Covered, Bool.or_eq_true, Bool.and_eq_true,
    PolicyBits.covers_iff, Operation.asksForContent_iff, Bool.not_eq_true']
  constructor
  · rintro (⟨hgrant, hdeny⟩ | ⟨⟨habsent, hop⟩, hgrant, hdeny⟩)
    · exact ⟨hdeny, .inl hgrant⟩
    · exact ⟨hdeny, .inr ⟨habsent, hop, hgrant⟩⟩
  · rintro ⟨hdeny, hgrant | ⟨habsent, hop, hgrant⟩⟩
    · exact .inl ⟨hgrant, hdeny⟩
    · exact .inr ⟨⟨habsent, hop⟩, hgrant, hdeny⟩

/-! ## Decisions -/

/-- A decision is the one that a policy, whose last rule is at some depth, calls for. -/
structure Decision.Follows (d : Decision) (settings : Settings) (request : Request)
    (policy : PolicyBits) (depth : Nat) : Prop where
  unexpected : d.unexpected = true ↔ ¬ request.Covered policy
  strict : settings.mode = .strict → (d.allowed = true ↔ request.Covered policy)
  permissive : settings.mode = .permissive → d.allowed = true
  reported : d.reported = true ↔
    d.unexpected = true ∨ policy.contains .reportAccess = true ∨
      (request.operation = .enumerateDirectory ∧
        policy.contains .reportDirectoryEnumeration = true) ∨
      settings.reportAll = true
  matchedDepth : d.matchedDepth.toNat = depth
  reason : d.reason =
    if request.Covered policy then .granted
    else if policy.contains .deny then .explicitDeny
    else .noCoveringGrant

namespace Verdict

variable {settings : Settings}

/-- What is reported is unexpected, or a rule or the settings ask for it. -/
theorem levelFor_ne_ignore_iff {operation : Operation} {policy : PolicyBits} {covered : Bool} :
    levelFor settings operation policy covered ≠ .ignore ↔
      covered = false ∨ policy.contains .reportAccess = true ∨
        (operation = .enumerateDirectory ∧
          policy.contains .reportDirectoryEnumeration = true) ∨
        settings.reportAll = true := by
  unfold levelFor
  split
  · rename_i hasked
    simp only [Bool.or_eq_true, Bool.and_eq_true, decide_eq_true_eq] at hasked
    refine iff_of_true nofun (.inr ?_)
    rcases hasked with haccess | hlisting
    · exact .inl haccess
    · exact .inr (.inl hlisting)
  · rename_i hasked
    simp only [Bool.or_eq_true, Bool.and_eq_true, decide_eq_true_eq, not_or] at hasked
    obtain ⟨haccess, hlisting⟩ := hasked
    simp only [haccess, hlisting, false_or]
    cases covered <;> cases settings.reportAll <;> decide

/-- The verdict on a resolved path follows its policy. -/
theorem decision_ofResolution (settings : Settings) (request : Request) {found : Resolution}
    (h : found.matchedDepth ≤ maxDepth) :
    (ofResolution settings request found).decision.Follows settings request found.policy
      found.matchedDepth := by
  have hcovered := @Request.isCoveredBy_iff request found.policy
  have hnot := hcovered.not
  rw [Bool.not_eq_true] at hnot
  refine ⟨?_, fun hmode => ?_, fun hmode => ?_, ?_, ?_, ?_⟩
  · rw [← hnot]
    simp [ofResolution]
  · rw [← hcovered]
    simp [ofResolution, hmode]
  · simp [ofResolution, hmode]
  · simp only [ofResolution, decide_eq_true_eq, Bool.not_eq_true']
    exact levelFor_ne_ignore_iff
  · have hlt : found.matchedDepth < 65536 := Nat.lt_succ_of_le h
    simp only [ofResolution, UInt16.toNat_ofNat']
    exact Nat.mod_eq_of_lt hlt
  · simp only [ofResolution, hcovered]

end Verdict

/-! ## Requests in a run -/

/-- A decision is the one that rules by path call for. -/
def Decision.Obeys (d : Decision) (m : RuleMap) (settings : Settings) (request : Request) : Prop :=
  match Path.components request.path with
  | .error _ => d = .failClosed .internalFault
  | .ok path => d.Follows settings request (m.policy path) (m.matchedDepth path)

/-- No rule of a tree lies deeper than a path can be. -/
theorem ScopeTree.matchedDepth_le {case : PathCase} {ds : List Directive} {tree : ScopeTree}
    (h : ofDirectives case ds = .ok tree) {text : String} {path : List String}
    (hpath : Path.components text = .ok path) :
    (tree.resolveComponents path).matchedDepth ≤ maxDepth := by
  rw [(resolveComponents_agrees h path).matchedDepth]
  exact (longestPrefix_le _ path).trans (Path.length_components_le (by rw [hpath]; rfl))

namespace Arbiter

variable {a : Arbiter} {case : PathCase} {ds : List Directive}

/-- An arbiter that is not tearing down decides as its directives say. -/
theorem judge_obeys (h : ScopeTree.ofDirectives case ds = .ok a.tree)
    (hlive : a.tearingDown = false) (request : Request) :
    (a.judge request).1.decision.Obeys (.ofDirectives case ds) a.settings request := by
  unfold judge Decision.Obeys
  rw [hlive, if_neg (by decide), ScopeTree.resolve]
  cases hpath : Path.components request.path with
  | error e => rfl
  | ok path =>
      have hagrees := ScopeTree.resolveComponents_agrees h path
      have hdepth := ScopeTree.matchedDepth_le h hpath
      have hfollows := Verdict.decision_ofResolution a.settings request hdepth
      rw [hagrees.policy, hagrees.matchedDepth] at hfollows
      exact hfollows

/-- In strict mode an arbiter allows nothing that its directives do not cover, in
whatever state it is. -/
theorem covered_of_judge (h : ScopeTree.ofDirectives case ds = .ok a.tree)
    (hmode : a.settings.mode = .strict) {request : Request}
    (hallowed : (a.judge request).1.decision.allowed = true) :
    ∃ path, Path.components request.path = .ok path ∧
      request.Covered ((RuleMap.ofDirectives case ds).policy path) := by
  cases hlive : a.tearingDown with
  | true =>
      rw [judge, hlive, if_pos rfl] at hallowed
      cases hallowed
  | false =>
      have hobeys := judge_obeys h hlive request
      unfold Decision.Obeys at hobeys
      split at hobeys
      · rw [hobeys] at hallowed
        cases hallowed
      · rename_i path hpath
        exact ⟨path, hpath, (hobeys.strict hmode).1 hallowed⟩

end Arbiter

namespace ScopeTree

variable {case : PathCase} {ds : List Directive} {tree : ScopeTree}

/-- **Deciding**: take a run of any acts in which an arbiter has the tree of some
directives, in whatever state it is at first.  A request that is then made at the only
level is decided, and unless the arbiter is tearing down, as the directives say.  In
strict mode an access that is allowed is covered. -/
theorem arbitrate_follows_rules (h : ofDirectives case ds = .ok tree) (settings : Settings)
    (sink : Sink) {s : Session} {seat k : Nat}
    (hseat : s.Seats seat (.create tree settings sink) k) (hk : k < s.tables.length)
    (acts : List Act) {guard : Option Nat} (hsole : (s.after acts).IsSole guard)
    (request : Request) :
    ∃ a d, (s.after acts).seats[seat]? = some ⟨a, k⟩ ∧
      ((s.after acts).perform (.arbitrate seat guard request)).answer = .decision d ∧
      (a.tearingDown = false → d.Obeys (.ofDirectives case ds) settings request) ∧
      (settings.mode = .strict → d.allowed = true →
        ∃ path, Path.components request.path = .ok path ∧
          request.Covered ((RuleMap.ofDirectives case ds).policy path)) := by
  have hkeeps := Session.keeps_after s acts
  obtain ⟨a, ha, hjob⟩ := hkeeps.seats _ _ _ hseat
  have htree : ofDirectives case ds = .ok a.tree := by rw [hjob.tree]; exact h
  have hsettings : a.settings = settings := hjob.settings
  have hlt : k < (s.after acts).tables.length := by rwa [hkeeps.tables]
  have hanswer := (Session.arbitrate_of_isSole hsole ha (List.getElem?_eq_getElem hlt) request).1
  refine ⟨a, _, ha, hanswer, fun hlive => ?_, fun hmode hallowed => ?_⟩
  · rw [← hsettings]
    exact Arbiter.judge_obeys htree hlive request
  · rw [← hsettings] at hmode
    exact Arbiter.covered_of_judge htree hmode hallowed

/-- A session with an arbiter of the sample tree in strict mode. -/
def sampleSession : Session :=
  Session.empty.addArbiter (.create sampleTree ⟨7, .strict, false⟩ .logging) true

/-- A request for the path of the exact rule of the sample. -/
def sampleRequest : Request := ⟨"/src/Gen/TOOL", .write, 40, none, 0, true⟩

/-- On the one level that is held, the sample request is denied: the exact rule grants
a listing only. -/
theorem arbitrate_follows_rules_sample :
    ∃ d, ((sampleSession.after [.enter]).perform (.arbitrate 0 (some 0) sampleRequest)).answer =
        .decision d ∧
      d.allowed = false ∧ d.reported = true ∧ d.matchedDepth.toNat = 3 ∧
      d.reason = .noCoveringGrant := by
  have hseat : sampleSession.Seats 0 (.create sampleTree ⟨7, .strict, false⟩ .logging) 0 :=
    ⟨_, rfl, .refl _⟩
  have hsole : (sampleSession.after [.enter]).IsSole (some 0) := by decide
  have hpath : Path.components sampleRequest.path = .ok ["src", "Gen", "TOOL"] := rfl
  have hpolicy : (RuleMap.ofDirectives .insensitive sampleDirectives).policy
      ["src", "Gen", "TOOL"] = .allowEnumerate := rfl
  have hdepth : (RuleMap.ofDirectives .insensitive sampleDirectives).matchedDepth
      ["src", "Gen", "TOOL"] = 3 := rfl
  have hnot : ¬ sampleRequest.Covered .allowEnumerate := by decide
  obtain ⟨a, d, ha, hd, hobeys, -⟩ := arbitrate_follows_rules ofDirectives_sampleDirectives
    ⟨7, .strict, false⟩ .logging hseat Nat.one_pos [.enter] hsole sampleRequest
  obtain rfl : .create sampleTree ⟨7, .strict, false⟩ .logging = a :=
    congrArg Seat.arbiter (Option.some.inj ha)
  have hfollows := hobeys rfl
  simp only [Decision.Obeys, hpath, hpolicy, hdepth] at hfollows
  have hdenied : d.allowed ≠ true := fun hallowed => hnot ((hfollows.strict rfl).1 hallowed)
  have hunexpected := hfollows.unexpected.2 hnot
  exact ⟨d, hd, by simpa using hdenied, hfollows.reported.2 (.inl hunexpected),
    hfollows.matchedDepth, hfollows.reason.trans rfl⟩

end ScopeTree

end AccessPolicy
