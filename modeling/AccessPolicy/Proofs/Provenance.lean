import AccessPolicy.Proofs.Resolution

/-!
# AccessPolicy.Proofs.Provenance

Which rules the bits of a policy come from.

Some of the rules on the way to a path *contribute* to its policy: scope rules wherever
they stand, an exact rule at the end only.  Take them in order of their depth:

1. a bit is set iff one of them adds it and each deeper one keeps it or adds it again;
2. all of them do what a single rule does, whatever they start from.

* `combine_telescope` — rule 2, `bit_telescope_iff` — rule 1;
* `contributes_iff` — the rules that a search comes upon are those that take part;
* `policy_provenance` — both rules for every path that is looked for.
-/

namespace AccessPolicy

namespace PolicyBits

/-- Two rules, one after the other, do what one rule does. -/
theorem combine_combine (inherited mask policy mask' policy' : PolicyBits) :
    combine (combine inherited mask policy) mask' policy' =
      combine inherited (mask ∩ mask') (combine policy mask' policy') := by
  refine ext_bit fun i => ?_
  simp only [bit_combine, bit_inter, Bool.and_or_distrib_right, Bool.and_assoc, Bool.or_assoc]

end PolicyBits

/-! ## Rules one after the other -/

/-- The mask and the policy of one rule that does what rules do one after the other. -/
def telescope (rules : List Rule) : PolicyBits × PolicyBits :=
  rules.foldl (fun one rule => (one.1 ∩ rule.mask, rule.apply one.2)) (.maskNone, ∅)

theorem telescope_concat (rules : List Rule) (rule : Rule) :
    telescope (rules ++ [rule]) =
      ((telescope rules).1 ∩ rule.mask, rule.apply (telescope rules).2) := by
  rw [telescope, List.foldl_append]
  rfl

/-- Whatever value rules start from, the one rule leaves of it what they leave of it. -/
theorem combine_telescope (rules : List Rule) (inherited : PolicyBits) :
    rules.foldl (fun value rule => rule.apply value) inherited =
      inherited.combine (telescope rules).1 (telescope rules).2 := by
  induction rules using List.reverseRecOn with
  | nil => exact (PolicyBits.combine_maskNone_empty inherited).symm
  | append_singleton rules rule ih =>
      rw [List.foldl_append, List.foldl_cons, List.foldl_nil, ih, telescope_concat, Rule.apply,
        PolicyBits.combine_combine]
      rfl

/-- A bit is left by rules iff one of them adds it and each deeper one keeps it or adds it. -/
theorem bit_telescope_iff {rules : List (Nat × Rule)} (h : rules.Pairwise (·.1 < ·.1)) (i : Nat) :
    (telescope (rules.map (·.2))).2.bit i = true ↔
      ∃ depth rule, (depth, rule) ∈ rules ∧ rule.policy.bit i = true ∧
        ∀ depth' rule', (depth', rule') ∈ rules → depth < depth' →
          rule'.mask.bit i = true ∨ rule'.policy.bit i = true := by
  induction rules using List.reverseRecOn with
  | nil => simp [telescope]
  | append_singleton rules last ih =>
      obtain ⟨hrules, -, hlast⟩ := List.pairwise_append.1 h
      have hlt (depth : Nat) (rule : Rule) (hmem : (depth, rule) ∈ rules) : depth < last.1 :=
        hlast _ hmem _ (List.mem_singleton_self last)
      rw [List.map_append, List.map_singleton, telescope_concat, Rule.bit_apply, Bool.or_eq_true,
        Bool.and_eq_true, ih hrules]
      constructor
      · rintro (⟨⟨depth, rule, hmem, hadds, hkept⟩, hmask⟩ | hadds)
        · refine ⟨depth, rule, List.mem_append_left _ hmem, hadds,
            fun depth' rule' hmem' hdeep => ?_⟩
          rcases List.mem_append.1 hmem' with hmem' | hmem'
          · exact hkept depth' rule' hmem' hdeep
          · obtain rfl := List.mem_singleton.1 hmem'
            exact .inl hmask
        · refine ⟨last.1, last.2, by simp, hadds, fun depth' rule' hmem' hdeep => ?_⟩
          rcases List.mem_append.1 hmem' with hmem' | hmem'
          · exact absurd (hlt depth' rule' hmem') (Nat.lt_asymm hdeep)
          · obtain rfl := List.mem_singleton.1 hmem'
            exact absurd hdeep (Nat.lt_irrefl _)
      · rintro ⟨depth, rule, hmem, hadds, hkept⟩
        rcases List.mem_append.1 hmem with hmem | hmem
        · refine (hkept last.1 last.2 (by simp) (hlt depth rule hmem)).imp_left fun hmask => ?_
          exact ⟨⟨depth, rule, hmem, hadds, fun depth' rule' hmem' =>
            hkept depth' rule' (List.mem_append_left _ hmem')⟩, hmask⟩
        · obtain rfl := List.mem_singleton.1 hmem
          exact .inr hadds

/-! ## Contributors of rules by path -/

/-- To fold rules by path is to apply those that there are, one after the other. -/
theorem foldRules_eq_foldl (rule? : List String → Option Rule) (paths : List (List String)) :
    foldRules rule? paths =
      ((paths.filterMap fun p => (rule? p).map (p.length, ·)).map (·.2)).foldl
        (fun value rule => rule.apply value) ∅ := by
  rw [foldRules, List.map_filterMap, List.foldl_filterMap]
  refine List.foldl_ext _ _ _ fun value p _ => ?_
  cases rule? p <;> rfl

/-- The prefixes of a path grow in length. -/
theorem pairwise_length_inits (path : List String) :
    path.inits.Pairwise (·.length < ·.length) := by
  induction path using List.reverseRecOn with
  | nil => simp
  | append_singleton path x ih =>
      rw [inits_concat]
      refine List.pairwise_append.2 ⟨ih, List.pairwise_singleton _ _, fun p hp q hq => ?_⟩
      obtain rfl := List.mem_singleton.1 hq
      have hle := ((List.mem_inits p path).1 hp).length_le
      rw [List.length_append, List.length_singleton]
      omega

namespace RuleMap

variable (m : RuleMap) (path : List String)

/-- The rules that take part in the policy of a path, each with its depth. -/
def contributors : List (Nat × Rule) :=
  path.inits.filterMap fun pre => (m.used? path pre).map (pre.length, ·)

theorem pairwise_contributors : (m.contributors path).Pairwise (·.1 < ·.1) := by
  rw [contributors, List.pairwise_filterMap]
  refine (pairwise_length_inits path).imp fun hlt a ha b hb => ?_
  obtain ⟨_, -, rfl⟩ := Option.map_eq_some_iff.1 ha
  obtain ⟨_, -, rfl⟩ := Option.map_eq_some_iff.1 hb
  exact hlt

/-- The policy is what these rules leave of the empty set, all at once. -/
theorem policy_eq_telescope : m.policy path = (telescope ((m.contributors path).map (·.2))).2 := by
  have hfold : m.policy path =
      ((m.contributors path).map (·.2)).foldl (fun value rule => rule.apply value) ∅ :=
    foldRules_eq_foldl _ _
  rw [hfold, combine_telescope]
  refine PolicyBits.ext_bit fun i => ?_
  simp

variable {m path}

theorem used?_eq_some_iff {pre : List String} {rule : Rule} :
    m.used? path pre = some rule ↔
      m.rule? pre = some rule ∧ (rule.kind = .scope ∨ pre.length = path.length) := by
  simp [used?, Option.filter_eq_some_iff]

theorem mem_contributors {depth : Nat} {rule : Rule} :
    (depth, rule) ∈ m.contributors path ↔
      depth ≤ path.length ∧ m.used? path (path.take depth) = some rule := by
  simp only [contributors, List.mem_filterMap, List.mem_inits, Option.map_eq_some_iff,
    Prod.mk.injEq]
  constructor
  · rintro ⟨pre, hpre, _, hused, rfl, rfl⟩
    refine ⟨hpre.length_le, ?_⟩
    rwa [← List.prefix_iff_eq_take.1 hpre]
  · rintro ⟨hle, hused⟩
    exact ⟨path.take depth, List.take_prefix _ _, rule, hused, by simp [hle], rfl⟩

end RuleMap

/-! ## Contributors of a search -/

/-- Where a search has followed a path, it stands at the rule of the path. -/
theorem Cursor.Followed.rule?_eq_some_iff {c : Cursor} {tree : ScopeTree} {path : List String}
    (h : c.Followed tree path) {rule : Rule} :
    tree.ruleMap.rule? path = some rule ↔ c.truncated = false ∧ c.scope.rule = some rule := by
  cases hover : c.truncated with
  | true => simp [ScopeTree.rule?_of_not_knows (h.not_knows hover)]
  | false => simp [ScopeTree.rule?_of_at? (h.scope hover)]

namespace ScopeTree

variable {case : PathCase} {ds : List Directive} {tree : ScopeTree}

/-- A rule contributes to a path at a depth: a search for as many components of the path
comes to a scope that has the rule, and it is a scope rule or the path ends there. -/
def Contributes (tree : ScopeTree) (path : List String) (depth : Nat) (rule : Rule) : Prop :=
  depth ≤ path.length ∧
    (tree.resolveComponents (path.take depth)).truncated = false ∧
    (tree.resolveComponents (path.take depth)).cursor.scope.rule = some rule ∧
    (rule.kind = .scope ∨ depth = path.length)

/-- The rules that a search comes upon are those that take part in the policy. -/
theorem contributes_iff (h : ofDirectives case ds = .ok tree) {path : List String} {depth : Nat}
    {rule : Rule} : tree.Contributes path depth rule ↔
      (depth, rule) ∈ (RuleMap.ofDirectives case ds).contributors path := by
  have hfollowed := followed_of_ofDirectives h (path.take depth)
  rw [← ruleMap_of_ofDirectives h, RuleMap.mem_contributors, RuleMap.used?_eq_some_iff,
    hfollowed.rule?_eq_some_iff, Contributes, resolveComponents, resolveFrom, Resolution.truncated, Cursor.cursor_resolution]
  refine and_congr_right fun hle => ?_
  rw [List.length_take_of_le hle, and_assoc]

/-- **Provenance**: in a tree that was built, a bit of the policy of a path is set iff some
rule that contributes to the path adds it and every deeper one that contributes keeps it or
adds it.  Taken in order of depth, these rules do what one mask and one policy do to any
value, and the policy of the path is that policy; no bit comes from anywhere else. -/
theorem policy_provenance (h : ofDirectives case ds = .ok tree) (path : List String) :
    let policy := (tree.resolveComponents path).policy
    (∀ i, policy.bit i = true ↔
      ∃ depth rule, tree.Contributes path depth rule ∧ rule.policy.bit i = true ∧
        ∀ depth' rule', tree.Contributes path depth' rule' → depth < depth' →
          rule'.mask.bit i = true ∨ rule'.policy.bit i = true) ∧
    (∃ contributors : List (Nat × Rule), contributors.Pairwise (·.1 < ·.1) ∧
      (∀ depth rule, (depth, rule) ∈ contributors ↔ tree.Contributes path depth rule) ∧
      (∀ inherited, (contributors.map (·.2)).foldl (fun value rule => rule.apply value) inherited =
        inherited.combine (telescope (contributors.map (·.2))).1
          (telescope (contributors.map (·.2))).2) ∧
      policy = (telescope (contributors.map (·.2))).2) ∧
    ∀ i, (∀ depth rule, tree.Contributes path depth rule → rule.policy.bit i = false) →
      policy.bit i = false := by
  intro policy
  have hascending := (RuleMap.ofDirectives case ds).pairwise_contributors path
  have hpolicy : policy = _ :=
    ((resolveComponents_agrees h path).policy.trans (RuleMap.policy_eq_telescope _ path))
  have hbit (i : Nat) : policy.bit i = true ↔
      ∃ depth rule, tree.Contributes path depth rule ∧ rule.policy.bit i = true ∧
        ∀ depth' rule', tree.Contributes path depth' rule' → depth < depth' →
          rule'.mask.bit i = true ∨ rule'.policy.bit i = true := by
    simp only [hpolicy, bit_telescope_iff hascending, contributes_iff h]
  refine ⟨hbit, ⟨_, hascending, fun depth rule => (contributes_iff h).symm,
    combine_telescope _, hpolicy⟩, fun i hnone => ?_⟩
  rw [← Bool.not_eq_true, hbit]
  rintro ⟨depth, rule, hrule, hadds, -⟩
  rw [hnone depth rule hrule] at hadds
  cases hadds

/-- Below the sample's scope for generated files, reading comes from the root.  The exact rule
of the tool takes it away. -/
theorem policy_provenance_sample :
    ofDirectives .insensitive sampleDirectives = .ok sampleTree ∧
      (sampleTree.resolveComponents ["Src", "GEN"]).policy.bit 0 = true ∧
      (sampleTree.resolveComponents ["Src", "GEN", "tool"]).policy.bit 0 = false := by
  refine ⟨ofDirectives_sampleDirectives, ?_, ?_⟩
  · refine ((policy_provenance ofDirectives_sampleDirectives _).1 0).2
      ⟨0, ⟨.maskAll, .allowRead, .scope⟩, ⟨by decide, rfl, rfl, .inl rfl⟩, rfl, ?_⟩
    rintro depth rule ⟨hle, -, hrule, -⟩ hdeep
    have hdepth : depth = 1 ∨ depth = 2 := by
      simp only [List.length_cons, List.length_nil] at hle
      omega
    rcases hdepth with rfl | rfl
    · cases (show none = some rule from hrule)
    · obtain rfl : (⟨.maskNone, .allowWrite, .scope⟩ : Rule) = rule := Option.some.inj hrule
      exact .inl rfl
  · rw [← Bool.not_eq_true, (policy_provenance ofDirectives_sampleDirectives _).1 0]
    rintro ⟨depth, rule, ⟨hle, -, hrule, -⟩, hadds, hkept⟩
    rcases Nat.lt_or_eq_of_le hle with hlt | rfl
    · have htool : sampleTree.Contributes ["Src", "GEN", "tool"] 3
          ⟨.maskAll, .allowEnumerate, .exact⟩ := ⟨by decide, rfl, rfl, .inr rfl⟩
      exact absurd (hkept _ _ htool hlt) (by decide)
    · obtain rfl : (⟨.maskAll, .allowEnumerate, .exact⟩ : Rule) = rule := Option.some.inj hrule
      cases hadds

end ScopeTree

end AccessPolicy
