import AccessPolicy.Proofs.Verdicts

/-!
# AccessPolicy.Proofs.Inheritance

What a deeper scope can add to the accesses that the scope above it covers.

The policy of a rule adds bits and its mask takes bits away.  One of the bits that a
mask may take away is the veto, and without the veto more is covered.  Apart from that,
no access is covered below that is not covered above with the bits of the rule added.

* `scope_lifts_veto` — a rule that adds nothing can let an access through;
* `covered_below_scope` — a deeper scope covers no more than what is granted above,
  vetoed or not, and what its rule adds.
-/

namespace AccessPolicy

namespace PolicyBits

/-! ## The veto -/

theorem bit_deny (i : Nat) : deny.bit i = decide (5 = i) := bit_flag (n := 5) rfl (by decide) i

/-- A set carries the veto iff its bit 5 is set. -/
theorem contains_deny_iff {b : PolicyBits} : b.contains deny = true ↔ b.bit 5 = true :=
  contains_flag_iff rfl (by decide)

theorem contains_deny_sdiff (b : PolicyBits) : (b \ deny).contains deny = false := by
  rw [← Bool.not_eq_true, contains_deny_iff, bit_sdiff, bit_deny]
  simp

theorem contains_deny_union (a b : PolicyBits) :
    (a ∪ b).contains deny = (a.contains deny || b.contains deny) := by
  rw [Bool.eq_iff_iff, Bool.or_eq_true]
  simp only [contains_deny_iff, bit_union, Bool.or_eq_true]

/-- A set without the veto does not lose anything with it. -/
theorem sdiff_deny_of_not_contains {b : PolicyBits} (h : b.contains deny = false) :
    b \ deny = b := by
  rw [← Bool.not_eq_true, contains_deny_iff, Bool.not_eq_true] at h
  refine ext_bit fun i => ?_
  rw [bit_sdiff, bit_deny]
  by_cases hi : 5 = i
  · subst hi
    simp [h]
  · simp [hi]

/-- What a rule leaves of an inherited value was there before or is added by the rule. -/
theorem contains_of_combine {inherited mask policy required : PolicyBits}
    (hveto : required.bit 5 = false)
    (h : (combine inherited mask policy).contains required = true) :
    ((inherited \ deny) ∪ (policy \ deny)).contains required = true := by
  rw [contains_iff] at h ⊢
  intro i hi
  have hother : 5 ≠ i := by
    rintro rfl
    rw [hveto] at hi
    cases hi
  have hbit := h i hi
  simp only [bit_combine, Bool.or_eq_true, Bool.and_eq_true] at hbit
  simp only [bit_union, bit_sdiff, bit_deny, hother, decide_false, Bool.not_false, Bool.and_true,
    Bool.or_eq_true]
  exact hbit.imp_left And.left

end PolicyBits

/-- No operation requires the veto. -/
theorem Operation.bit_required (operation : Operation) : operation.required.bit 5 = false := by
  cases operation <;> rfl

/-! ## One rule -/

namespace Request

open PolicyBits

/-- What is covered below a rule is covered by the grants above it, vetoed or not, with
those of the rule. -/
theorem isCoveredBy_of_apply {r : Request} {rule : Rule} {above : PolicyBits}
    (h : r.isCoveredBy (rule.apply above) = true) :
    r.isCoveredBy ((above \ deny) ∪ (rule.policy \ deny)) = true := by
  rw [isCoveredBy_iff] at h ⊢
  obtain ⟨-, hgranted⟩ := h
  refine ⟨?_, ?_⟩
  · rw [contains_deny_union, contains_deny_sdiff, contains_deny_sdiff]
    rfl
  · rcases hgranted with hrequired | ⟨habsent, hoperation, hrequired⟩
    · exact .inl (contains_of_combine r.operation.bit_required hrequired)
    · exact .inr ⟨habsent, hoperation, contains_of_combine rfl hrequired⟩

/-- What is covered carries no veto. -/
theorem not_contains_deny_of_isCoveredBy {r : Request} {policy : PolicyBits}
    (h : r.isCoveredBy policy = true) : policy.contains deny = false :=
  (isCoveredBy_iff.1 h).1

/-- An inherited veto that is gone below a rule was taken away by its mask. -/
theorem mask_of_apply_deny {rule : Rule} {above : PolicyBits}
    (h : (rule.apply above).contains deny = false) (habove : above.contains deny = true) :
    rule.mask.contains deny = false := by
  rw [← Bool.not_eq_true, contains_deny_iff, Rule.bit_apply] at h
  rw [contains_deny_iff] at habove
  rw [← Bool.not_eq_true, contains_deny_iff]
  intro hmask
  simp [habove, hmask] at h

/-- What is covered below a rule is covered above it, with the bits of the rule, unless
the mask of the rule lifts a veto. -/
theorem isCoveredBy_above_iff {r : Request} {rule : Rule} {above : PolicyBits}
    (h : r.isCoveredBy (rule.apply above) = true) :
    r.isCoveredBy (above ∪ (rule.policy \ deny)) = true ↔
      ¬ (above.contains deny = true ∧ rule.mask.contains deny = false) := by
  constructor
  · rintro hcovered ⟨habove, -⟩
    have hlost := not_contains_deny_of_isCoveredBy hcovered
    rw [contains_deny_union, habove] at hlost
    cases hlost
  · intro hkept
    have habove : above.contains deny = false := by
      by_contra hveto
      rw [Bool.not_eq_false] at hveto
      exact hkept ⟨hveto, mask_of_apply_deny (not_contains_deny_of_isCoveredBy h) hveto⟩
    have hcovered := isCoveredBy_of_apply h
    rwa [sdiff_deny_of_not_contains habove] at hcovered

end Request

/-! ## Scopes of a tree -/

namespace ScopeTree

variable {case : PathCase} {ds : List Directive} {tree : ScopeTree}

/-- Below a path with a scope rule, the cone is what the rule leaves of the cone above. -/
theorem cone_below_scope (h : ofDirectives case ds = .ok tree) {path : List String} {x : String}
    {rule : Rule} (hrule : (RuleMap.ofDirectives case ds).rule? (path ++ [x]) = some rule)
    (hscope : rule.kind = .scope) :
    (tree.resolveComponents (path ++ [x])).cone =
      rule.apply (tree.resolveComponents path).cone := by
  have hinherited : (RuleMap.ofDirectives case ds).inherited? (path ++ [x]) = some rule := by
    simp [RuleMap.inherited?, hrule, hscope]
  rw [(resolveComponents_agrees h _).cone, (resolveComponents_agrees h _).cone,
    RuleMap.cone_concat, hinherited]
  rfl

/-- A root that vetoes what it grants, and a scope that keeps the grant and adds nothing. -/
def liftingDirectives : List Directive :=
  [⟨"/", ⟨.maskNone, .allowRead ∪ .deny, .scope⟩⟩, ⟨"/a", ⟨.allowRead, ∅, .scope⟩⟩]

/-- A scope whose rule adds nothing covers an access that is refused above it, because
its mask lifts the veto. -/
theorem scope_lifts_veto :
    ∃ tree, ofDirectives .sensitive liftingDirectives = .ok tree ∧
      (RuleMap.ofDirectives .sensitive liftingDirectives).rule? ([] ++ ["a"]) =
        some ⟨.allowRead, ∅, .scope⟩ ∧
      Request.isCoveredBy ⟨"/a", .read, 1, none, 0, true⟩
        (tree.resolveComponents ([] ++ ["a"])).cone = true ∧
      Request.isCoveredBy ⟨"/a", .read, 1, none, 0, true⟩
        ((tree.resolveComponents []).cone ∪ (∅ \ .deny)) = false :=
  ⟨_, rfl, rfl, rfl, rfl⟩

/-- **Inheritance**: take an access that is covered by what a path with a scope rule
hands on.  It is covered by the grants of the path above, vetoed or not, with those that
the rule adds.  It is so by the policy above as it stands, with the grants of the rule,
unless there is a veto above that the mask of the rule takes away. -/
theorem covered_below_scope (h : ofDirectives case ds = .ok tree) {path : List String}
    {x : String} {rule : Rule}
    (hrule : (RuleMap.ofDirectives case ds).rule? (path ++ [x]) = some rule)
    (hscope : rule.kind = .scope) (request : Request)
    (hcovered : request.isCoveredBy (tree.resolveComponents (path ++ [x])).cone = true) :
    let above := (tree.resolveComponents path).cone
    request.isCoveredBy ((above \ .deny) ∪ (rule.policy \ .deny)) = true ∧
      (request.isCoveredBy (above ∪ (rule.policy \ .deny)) = true ↔
        ¬ (above.contains .deny = true ∧ rule.mask.contains .deny = false)) := by
  rw [cone_below_scope h hrule hscope] at hcovered
  exact ⟨Request.isCoveredBy_of_apply hcovered, Request.isCoveredBy_above_iff hcovered⟩

/-- A write below the scope of the sample that adds the permission to write. -/
theorem covered_below_scope_sample :
    ofDirectives .insensitive sampleDirectives = .ok sampleTree ∧
      (RuleMap.ofDirectives .insensitive sampleDirectives).rule? (["src"] ++ ["GEN"]) =
        some ⟨.maskNone, .allowWrite, .scope⟩ ∧
      sampleRequest.isCoveredBy (sampleTree.resolveComponents (["src"] ++ ["GEN"])).cone = true ∧
      sampleRequest.isCoveredBy ((sampleTree.resolveComponents ["src"]).cone ∪
        (.allowWrite \ .deny)) = true := by
  have hrule : (RuleMap.ofDirectives .insensitive sampleDirectives).rule? (["src"] ++ ["GEN"]) =
      some ⟨.maskNone, .allowWrite, .scope⟩ := rfl
  have hcovered : sampleRequest.isCoveredBy
      (sampleTree.resolveComponents (["src"] ++ ["GEN"])).cone = true := rfl
  have hkept := (covered_below_scope ofDirectives_sampleDirectives hrule rfl sampleRequest
    hcovered).2
  exact ⟨ofDirectives_sampleDirectives, hrule, hcovered, hkept.2 (by decide)⟩

end ScopeTree

end AccessPolicy
