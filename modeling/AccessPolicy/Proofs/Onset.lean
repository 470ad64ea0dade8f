import AccessPolicy.Proofs.Provenance
import Mathlib.Data.Finset.Max
import Mathlib.Data.List.DropRight

/-!
# AccessPolicy.Proofs.Onset

From which depth on bits are part of a policy.

The rules that contribute to a path leave one value after the other, each at the depth of
its rule; the last of these values is the policy.  Bits *begin* at a depth when

1. a rule contributes at this depth;
2. every value from there on has the bits;
3. the value next above, if there is one, lacks some of them.

Where no rule contributes, nothing begins anywhere, not even the bits of the empty set.

* `contributions_eq_values` — the values that a search comes upon are those of the rules;
* `beginAt_of_getLast?` — what is found from the last value upwards is where bits begin;
* `lowestConsecutiveDepth_begins` — the depth that is found is the one where bits begin;
* `lowestConsecutiveDepth_none_iff` — none is found where the policy lacks some of the
  bits, and for the empty set where no rule contributes.
-/

namespace AccessPolicy

/-! ## Values one after the other -/

/-- The values that rules leave one after the other, each with the depth of its rule. -/
def valuesFrom (value : PolicyBits) : List (Nat × Rule) → List (Nat × PolicyBits)
  | [] => []
  | (depth, rule) :: rules => (depth, rule.apply value) :: valuesFrom (rule.apply value) rules

variable {value : PolicyBits} {rules : List (Nat × Rule)}

theorem map_fst_valuesFrom (value : PolicyBits) (rules : List (Nat × Rule)) :
    (valuesFrom value rules).map (·.1) = rules.map (·.1) := by
  induction rules generalizing value with
  | nil => rfl
  | cons rule rules ih => simp [valuesFrom, ih]

theorem valuesFrom_concat (value : PolicyBits) (rules : List (Nat × Rule)) (last : Nat × Rule) :
    valuesFrom value (rules ++ [last]) = valuesFrom value rules ++
      [(last.1, last.2.apply
        ((rules.map (·.2)).foldl (fun value rule => rule.apply value) value))] := by
  induction rules generalizing value with
  | nil => rfl
  | cons rule rules ih => simp [valuesFrom, ih]

theorem valuesFrom_eq_nil_iff : valuesFrom value rules = [] ↔ rules = [] := by
  cases rules <;> simp [valuesFrom]

/-- The last value is what all the rules leave. -/
theorem eq_foldl_of_getLast? {c : Nat × PolicyBits}
    (h : (valuesFrom value rules).getLast? = some c) :
    c.2 = (rules.map (·.2)).foldl (fun value rule => rule.apply value) value := by
  induction rules using List.reverseRecOn with
  | nil => simp [valuesFrom] at h
  | append_singleton rules last _ =>
      rw [valuesFrom_concat, List.getLast?_concat, Option.some_inj] at h
      simp [← h]

namespace RuleMap

variable (m : RuleMap) (path : List String)

/-- The values that the rules of a path leave one after the other, each with its depth. -/
def values : List (Nat × PolicyBits) := valuesFrom ∅ (m.contributors path)

/-- The rules that a path hands on, each with its depth. -/
def handedOn : List (Nat × Rule) :=
  path.inits.filterMap fun pre => (m.inherited? pre).map (pre.length, ·)

theorem pairwise_values : (m.values path).Pairwise (·.1 < ·.1) := by
  have hdepths : ((m.values path).map (·.1)).Pairwise (· < ·) := by
    rw [values, map_fst_valuesFrom]
    exact List.pairwise_map.2 (m.pairwise_contributors path)
  exact List.pairwise_map.1 hdepths

variable {m path}

theorem values_eq_nil_iff :
    m.values path = [] ↔ ∀ depth rule, (depth, rule) ∉ m.contributors path := by
  rw [values, valuesFrom_eq_nil_iff, List.eq_nil_iff_forall_not_mem, Prod.forall]

/-- The last value of a path is its policy. -/
theorem eq_policy_of_getLast? {c : Nat × PolicyBits} (h : (m.values path).getLast? = some c) :
    c.2 = m.policy path :=
  (eq_foldl_of_getLast? h).trans (foldRules_eq_foldl _ _).symm

/-- Without a rule that contributes, the policy is empty. -/
theorem policy_of_values_nil (h : m.values path = []) : m.policy path = ∅ := by
  have hnone : m.contributors path = [] := valuesFrom_eq_nil_iff.1 h
  have hfold : m.policy path = _ := foldRules_eq_foldl (m.used? path) path.inits
  rw [hfold, ← contributors, hnone]
  rfl

/-- What a path hands on is what these rules leave. -/
theorem cone_eq_foldl (m : RuleMap) (path : List String) : m.cone path =
    ((m.handedOn path).map (·.2)).foldl (fun value rule => rule.apply value) ∅ :=
  foldRules_eq_foldl m.inherited? path.inits

theorem handedOn_concat (m : RuleMap) (path : List String) (x : String) :
    m.handedOn (path ++ [x]) = m.handedOn path ++
      ((m.inherited? (path ++ [x])).map (path.length + 1, ·)).toList := by
  rw [handedOn, inits_concat, List.filterMap_append]
  cases h : m.inherited? (path ++ [x]) <;> simp [handedOn, h]

/-- The rules of a path are those that it hands on, and the exact rule at its end. -/
theorem contributors_eq_handedOn (m : RuleMap) (path : List String) :
    m.contributors path = m.handedOn path ++
      (((m.rule? path).filter (·.kind = .exact)).map (path.length, ·)).toList := by
  obtain ⟨proper, hinits, hlt⟩ := exists_inits_eq path
  have hproper : (proper.filterMap fun pre => (m.used? path pre).map (pre.length, ·)) =
      proper.filterMap fun pre => (m.inherited? pre).map (pre.length, ·) :=
    List.filterMap_congr fun pre hpre => by rw [used?_of_lt (hlt pre hpre)]
  rw [contributors, handedOn, hinits, List.filterMap_append, List.filterMap_append, hproper,
    List.append_assoc]
  cases h : m.rule? path with
  | none => simp [used?, inherited?, h]
  | some rule => cases hkind : rule.kind <;> simp [used?, inherited?, h, hkind, Option.filter]

end RuleMap

/-! ## Values that a search comes upon -/

namespace Cursor

variable {tree : ScopeTree} {path : List String} {c : Cursor}

theorem passed_concat (case : PathCase) (c : Cursor) (xs : List String) (x : String) :
    c.passed case (xs ++ [x]) = c.passed case xs ++
      if (c.advance case (xs ++ [x])).shapesCone then
        [((c.advance case (xs ++ [x])).level, (c.advance case (xs ++ [x])).cone)]
      else [] := by
  induction xs generalizing c with
  | nil => rfl
  | cons y xs ih =>
      simp only [List.cons_append, passed, advance_cons, ih]
      split <;> rfl

/-- A search stands at a scope that shapes the cone iff its path hands a rule on. -/
theorem Followed.shapesCone_eq (h : c.Followed tree path) :
    c.shapesCone = (tree.ruleMap.inherited? path).isSome := by
  cases hover : c.truncated with
  | true => simp [shapesCone, hover, ScopeTree.inherited?_of_not_knows (h.not_knows hover)]
  | false => simp [shapesCone, hover, ScopeTree.inherited?_of_at? (h.scope hover)]

end Cursor

namespace ScopeTree

variable {case : PathCase} {ds : List Directive} {tree : ScopeTree}

/-- The scope rules that a search passes are those that its path hands on. -/
theorem passed_eq_valuesFrom (h : ofDirectives case ds = .ok tree) (path : List String) :
    (tree.root.inheritedRule?.elim [] fun _ => [(0, tree.rootCursor.cone)]) ++
        tree.rootCursor.passed tree.case path =
      valuesFrom ∅ (tree.ruleMap.handedOn path) := by
  induction path using List.reverseRecOn with
  | nil =>
      have hroot : tree.ruleMap.inherited? [] = tree.root.inheritedRule? := inherited?_of_at? rfl
      cases hrule : tree.root.inheritedRule? <;>
        simp [RuleMap.handedOn, hroot, hrule, Cursor.passed, valuesFrom, rootCursor, Cursor.atRoot]
  | append_singleton path x ih =>
      have hfollowed := followed_of_ofDirectives h (path ++ [x])
      rw [Cursor.passed_concat, ← List.append_assoc, ih, RuleMap.handedOn_concat,
        hfollowed.shapesCone_eq]
      cases hrule : tree.ruleMap.inherited? (path ++ [x]) with
      | none => simp
      | some rule =>
          have hknows : tree.ruleMap.knows (path ++ [x]) = true := by
            by_contra hnot
            rw [inherited?_of_not_knows (by simpa using hnot)] at hrule
            cases hrule
          have hlevel := hfollowed.level.trans (RuleMap.level_of_knows _ hknows)
          have hvalue := hfollowed.cone.trans (RuleMap.cone_concat _ path x)
          rw [hrule, Option.elim_some, RuleMap.cone_eq_foldl] at hvalue
          simp [hlevel, hvalue, valuesFrom_concat]

/-- The values that a search comes upon are those that the rules of the directives leave. -/
theorem contributions_eq_values (h : ofDirectives case ds = .ok tree) (path : List String) :
    tree.contributions path = (RuleMap.ofDirectives case ds).values path := by
  have hfollowed := followed_of_ofDirectives h path
  rw [← ruleMap_of_ofDirectives h, contributions, passed_eq_valuesFrom h, hfollowed.exactRule?_eq,
    RuleMap.values, RuleMap.contributors_eq_handedOn]
  cases hexact : (tree.ruleMap.rule? path).filter (·.kind = .exact) with
  | none => simp
  | some rule =>
      have hknows := knows_of_rule? (Option.filter_eq_some_iff.1 hexact).1
      have hlevel := hfollowed.level.trans (RuleMap.level_of_knows _ hknows)
      simp [hlevel, hfollowed.cone, RuleMap.cone_eq_foldl, valuesFrom_concat]

end ScopeTree

/-! ## Where bits begin -/

/-- Bits begin at a depth: there is a value at this depth, every value from there on has the
bits, and the value next above, if there is one, lacks some of them. -/
structure PolicyBits.BeginAt (bits : PolicyBits) (values : List (Nat × PolicyBits))
    (depth : Nat) : Prop where
  stands : ∃ value, (depth, value) ∈ values
  kept : ∀ c ∈ values, depth ≤ c.1 → c.2.contains bits = true
  broken : ∀ c ∈ values, c.1 < depth → (∀ c' ∈ values, c'.1 < depth → c'.1 ≤ c.1) →
    c.2.contains bits = false

namespace PolicyBits

variable {bits bits' : PolicyBits} {values : List (Nat × PolicyBits)}

/-- Fewer bits do not begin later. -/
theorem BeginAt.le {depth depth' : Nat} (h : bits.BeginAt values depth)
    (h' : bits'.BeginAt values depth') (hsub : bits'.contains bits = true) : depth ≤ depth' := by
  by_contra hlt
  obtain ⟨value, hvalue⟩ := h'.stands
  let above := (values.filter (·.1 < depth)).toFinset
  have hmem (c : Nat × PolicyBits) : c ∈ above ↔ c ∈ values ∧ c.1 < depth := by simp [above]
  obtain ⟨c, hc, hnext⟩ := above.exists_max_image (·.1)
    ⟨_, (hmem _).2 ⟨hvalue, Nat.lt_of_not_le hlt⟩⟩
  simp only [hmem] at hc hnext
  -- the value next above has the greater set, since it is not above where that one begins
  have hkept := h'.kept c hc.1 (hnext _ ⟨hvalue, Nat.lt_of_not_le hlt⟩)
  have hbroken := h.broken c hc.1 hc.2 fun c' hc' hlt' => hnext c' ⟨hc', hlt'⟩
  rw [contains_trans hkept hsub] at hbroken
  cases hbroken

/-- The last of ascending values is the deepest. -/
theorem eq_or_lt_of_getLast? (hasc : values.Pairwise (·.1 < ·.1)) {last c : Nat × PolicyBits}
    (hlast : values.getLast? = some last) (hc : c ∈ values) : c = last ∨ c.1 < last.1 := by
  obtain ⟨before, rfl⟩ := List.getLast?_eq_some_iff.1 hlast
  rcases List.mem_append.1 hc with hc | hc
  · exact .inr ((List.pairwise_append.1 hasc).2.2 c hc last (List.mem_singleton_self last))
  · exact .inl (List.mem_singleton.1 hc)

/-- Bits begin with the first of the last values that have them, if the one before it does
not. -/
theorem beginAt_of_append {above rest : List (Nat × PolicyBits)} {first : Nat × PolicyBits}
    (hasc : (above ++ first :: rest).Pairwise (·.1 < ·.1))
    (hkept : ∀ c ∈ first :: rest, c.2.contains bits = true)
    (hlacks : ∀ c, above.getLast? = some c → c.2.contains bits = false) :
    bits.BeginAt (above ++ first :: rest) first.1 := by
  obtain ⟨habove, hrun, hacross⟩ := List.pairwise_append.1 hasc
  have hdeeper := (List.pairwise_cons.1 hrun).1
  have hless (c : Nat × PolicyBits) (hc : c ∈ above) : c.1 < first.1 :=
    hacross c hc first List.mem_cons_self
  refine ⟨⟨first.2, by simp⟩, fun c hc hle => ?_, fun c hc hlt hnext => ?_⟩
  · rcases List.mem_append.1 hc with hc | hc
    · exact absurd (hless c hc) (by omega)
    · exact hkept c hc
  · have hmem : c ∈ above := by
      simp only [List.mem_append, List.mem_cons] at hc
      rcases hc with hc | rfl | hc
      · exact hc
      · omega
      · exact absurd (hdeeper c hc) (by omega)
    obtain ⟨last, hlast⟩ : ∃ last, above.getLast? = some last :=
      ⟨_, List.getLast?_eq_some_getLast (List.ne_nil_of_mem hmem)⟩
    have hmem' := List.mem_of_getLast? hlast
    have hle := hnext last (List.mem_append_left _ hmem') (hless last hmem')
    obtain rfl | hlt' := eq_or_lt_of_getLast? habove hlast hmem
    · exact hlacks c hlast
    · omega

/-- What is found from the last value upwards is where the bits begin. -/
theorem beginAt_of_getLast? (hasc : values.Pairwise (·.1 < ·.1)) {first : Nat × PolicyBits}
    (h : (values.reverse.takeWhile (·.2.contains bits)).getLast? = some first) :
    bits.BeginAt values first.1 := by
  let keeps (c : Nat × PolicyBits) : Bool := c.2.contains bits
  have hsplit : values.rdropWhile keeps ++ values.rtakeWhile keeps = values :=
    List.rdropWhile_append_rtakeWhile
  have hfirst : (values.rtakeWhile keeps).head? = some first := by
    rw [List.rtakeWhile, List.head?_reverse]
    exact h
  obtain ⟨rest, hrun⟩ := List.head?_eq_some_iff.1 hfirst
  rw [hrun] at hsplit
  rw [← hsplit] at hasc ⊢
  refine beginAt_of_append hasc (fun c hc => ?_) fun c hc => ?_
  · rw [← hrun] at hc
    have hkeeps : keeps c = true := List.mem_rtakeWhile_imp hc
    exact hkeeps
  · have hne := List.ne_nil_of_mem (List.mem_of_getLast? hc)
    have hlast := List.rdropWhile_last_not keeps values hne
    rw [List.getLast?_eq_some_getLast hne, Option.some_inj] at hc
    simpa [hc, keeps] using hlast

/-- Where bits begin, the last value has them. -/
theorem BeginAt.exists_getLast? {depth : Nat} (h : bits.BeginAt values depth)
    (hasc : values.Pairwise (·.1 < ·.1)) :
    ∃ last, values.getLast? = some last ∧ last.2.contains bits = true := by
  obtain ⟨value, hvalue⟩ := h.stands
  have hlast := List.getLast?_eq_some_getLast (List.ne_nil_of_mem hvalue)
  refine ⟨_, hlast, h.kept _ (List.getLast_mem _) ?_⟩
  obtain heq | hlt := eq_or_lt_of_getLast? hasc hlast hvalue
  · rw [← heq]
  · exact hlt.le

theorem eq_empty_of_contains (h : contains ∅ bits = true) : bits = ∅ := by
  have hinter : ∅ ∩ bits = bits := of_decide_eq_true h
  rw [← hinter]
  exact ext_bit fun i => by simp

/-- None of the last values has the bits iff there is no value, or the last one lacks some. -/
theorem takeWhile_reverse_eq_nil_iff :
    values.reverse.takeWhile (·.2.contains bits) = [] ↔
      ∀ c, values.getLast? = some c → c.2.contains bits = false := by
  induction values using List.reverseRecOn with
  | nil => simp
  | append_singleton values c _ => cases h : c.2.contains bits <;> simp [h]

end PolicyBits

/-! ## The depth that is found -/

namespace ScopeTree

open PolicyBits

variable {case : PathCase} {ds : List Directive} {tree : ScopeTree}

/-- No depth is found where the policy lacks some of the bits, or no rule contributes. -/
theorem lowestConsecutiveDepth_eq_none (h : ofDirectives case ds = .ok tree) (path : List String)
    (bits : PolicyBits) :
    tree.lowestConsecutiveDepth path bits = none ↔
      (tree.resolveComponents path).policy.contains bits = false ∨
        (RuleMap.ofDirectives case ds).values path = [] := by
  have hpolicy := (resolveComponents_agrees h path).policy
  rw [lowestConsecutiveDepth, contributions_eq_values h, hpolicy]
  cases hcontains : ((RuleMap.ofDirectives case ds).policy path).contains bits with
  | false => simp
  | true =>
      simp only [if_true, Bool.true_eq_false, false_or, Option.map_eq_none_iff,
        List.getLast?_eq_none_iff, takeWhile_reverse_eq_nil_iff]
      constructor
      · intro hlacks
        by_contra hne
        have hlast := List.getLast?_eq_some_getLast hne
        have hlast' := hlacks _ hlast
        rw [RuleMap.eq_policy_of_getLast? hlast, hcontains] at hlast'
        cases hlast'
      · intro hnil c hc
        simp [hnil] at hc

/-- A depth that is found is one where the bits begin, and the only one. -/
theorem lowestConsecutiveDepth_eq_some (h : ofDirectives case ds = .ok tree) (path : List String)
    (bits : PolicyBits) (depth : Nat) :
    tree.lowestConsecutiveDepth path bits = some depth ↔
      bits.BeginAt ((RuleMap.ofDirectives case ds).values path) depth := by
  have hfound {depth : Nat} (hdepth : tree.lowestConsecutiveDepth path bits = some depth) :
      bits.BeginAt ((RuleMap.ofDirectives case ds).values path) depth := by
    rw [lowestConsecutiveDepth, contributions_eq_values h] at hdepth
    split at hdepth
    · obtain ⟨c, hc, rfl⟩ := Option.map_eq_some_iff.1 hdepth
      exact beginAt_of_getLast? (RuleMap.pairwise_values _ _) hc
    · cases hdepth
  refine ⟨hfound, fun hbegin => ?_⟩
  cases hdepth : tree.lowestConsecutiveDepth path bits with
  | none =>
      obtain ⟨c, hc, hkept⟩ := hbegin.exists_getLast? (RuleMap.pairwise_values _ _)
      rw [RuleMap.eq_policy_of_getLast? hc, ← (resolveComponents_agrees h path).policy] at hkept
      rcases (lowestConsecutiveDepth_eq_none h path bits).1 hdepth with hlacks | hnil
      · simp [hkept] at hlacks
      · simp [hnil] at hc
  | some depth' =>
      have hbegin' := hfound hdepth
      have hle := hbegin.le hbegin' (contains_self bits)
      have hle' := hbegin'.le hbegin (contains_self bits)
      rw [Nat.le_antisymm hle' hle]

/-- **Onset**: take the values that the rules contributing to a path leave, from the root on:
rules at the root and further down if they are scope rules, and an exact rule at the end of
the path.  The depth that is found for some bits is the one where they begin.  None is found
iff the policy of the path lacks some of them or there is no such value.  If one is found for
some bits, one is found for fewer bits, and it is not greater. -/
theorem lowestConsecutiveDepth_begins (h : ofDirectives case ds = .ok tree) (path : List String)
    (bits : PolicyBits) :
    let values := (RuleMap.ofDirectives case ds).values path
    (∀ depth, tree.lowestConsecutiveDepth path bits = some depth ↔ bits.BeginAt values depth) ∧
    (tree.lowestConsecutiveDepth path bits = none ↔
      (tree.resolveComponents path).policy.contains bits = false ∨ values = []) ∧
    ∀ bits' depth', bits'.contains bits = true →
      tree.lowestConsecutiveDepth path bits' = some depth' →
      ∃ depth ≤ depth', tree.lowestConsecutiveDepth path bits = some depth := by
  intro values
  refine ⟨lowestConsecutiveDepth_eq_some h path bits, lowestConsecutiveDepth_eq_none h path bits,
    fun bits' depth' hsub hdepth' => ?_⟩
  have hbegin' := (lowestConsecutiveDepth_eq_some h path bits' depth').1 hdepth'
  cases hdepth : tree.lowestConsecutiveDepth path bits with
  | some depth =>
      have hbegin := (lowestConsecutiveDepth_eq_some h path bits depth).1 hdepth
      exact ⟨depth, hbegin.le hbegin' hsub, rfl⟩
  | none =>
      -- what lacks fewer bits lacks more
      have hnone : tree.lowestConsecutiveDepth path bits' = none := by
        refine (lowestConsecutiveDepth_eq_none h path bits').2 ?_
        refine ((lowestConsecutiveDepth_eq_none h path bits).1 hdepth).imp_left fun hlacks => ?_
        rw [← Bool.not_eq_true] at hlacks ⊢
        exact fun hcontains => hlacks (contains_trans hcontains hsub)
      simp [hnone] at hdepth'

/-- For the exact rule of the sample, its own bits begin with it.  Above it, the permission to
read begins at the root, and both permissions where that to write is added. -/
theorem lowestConsecutiveDepth_begins_sample :
    ofDirectives .insensitive sampleDirectives = .ok sampleTree ∧
      allowEnumerate.BeginAt ((RuleMap.ofDirectives .insensitive sampleDirectives).values
        ["src", "gen", "tool"]) 3 ∧
      sampleTree.lowestConsecutiveDepth ["src", "gen", "tool"] allowRead = none ∧
      (allowRead ∪ allowWrite).contains allowRead = true ∧
      sampleTree.lowestConsecutiveDepth ["src", "gen", "x"] (allowRead ∪ allowWrite) = some 2 ∧
      ∃ depth ≤ 2, sampleTree.lowestConsecutiveDepth ["src", "gen", "x"] allowRead = some depth := by
  have hsub : (allowRead ∪ allowWrite).contains allowRead = true := by decide
  have hboth : sampleTree.lowestConsecutiveDepth ["src", "gen", "x"] (allowRead ∪ allowWrite) =
      some 2 := rfl
  obtain ⟨hbegin, -, -⟩ := lowestConsecutiveDepth_begins ofDirectives_sampleDirectives
    ["src", "gen", "tool"] allowEnumerate
  obtain ⟨-, hnone, -⟩ := lowestConsecutiveDepth_begins ofDirectives_sampleDirectives
    ["src", "gen", "tool"] allowRead
  obtain ⟨-, -, hfewer⟩ := lowestConsecutiveDepth_begins ofDirectives_sampleDirectives
    ["src", "gen", "x"] allowRead
  exact ⟨ofDirectives_sampleDirectives, (hbegin 3).1 rfl, hnone.2 (.inl rfl), hsub, hboth,
    hfewer _ _ hsub hboth⟩

/-! ## The empty set -/

theorem values_eq_nil_iff (h : ofDirectives case ds = .ok tree) {path : List String} :
    (RuleMap.ofDirectives case ds).values path = [] ↔
      ∀ depth rule, ¬ tree.Contributes path depth rule := by
  simp only [contributes_iff h, RuleMap.values_eq_nil_iff]

/-- The rule of the root contributes to every path, or to that of the root alone. -/
theorem contributes_root (tree : ScopeTree) {path : List String}
    (h : tree.rootRule.kind = .scope ∨ path = []) : tree.Contributes path 0 tree.rootRule := by
  have hcursor : (tree.resolveComponents (path.take 0)).cursor = tree.rootCursor :=
    Cursor.cursor_resolution _
  refine ⟨Nat.zero_le _, ?_, ?_, h.imp_right fun hpath => by rw [hpath]; rfl⟩
  · rw [Resolution.truncated, hcursor]
    rfl
  · rw [hcursor]
    rfl

/-- An exact rule for the root alone. -/
def exactRootDirectives : List Directive := [⟨"/", ⟨.maskNone, .allowRead, .exact⟩⟩]

/-- Below a root with an exact rule no rule contributes, and no depth is found for the empty
set, although no policy lacks any of its bits. -/
theorem emptySet_begins_nowhere :
    ∃ tree, ofDirectives .sensitive exactRootDirectives = .ok tree ∧
      (tree.resolveComponents ["a"]).policy.contains ∅ = true ∧
      tree.lowestConsecutiveDepth ["a"] ∅ = none ∧
      ¬ (tree.lowestConsecutiveDepth ["a"] ∅ = none ↔
        (tree.resolveComponents ["a"]).policy.contains ∅ = false) :=
  ⟨_, rfl, rfl, rfl, fun hiff => Bool.noConfusion (hiff.1 rfl)⟩

/-- **No onset**: no depth is found for some bits iff the policy lacks some of them, or they
are none at all and no rule contributes to the path.  The latter is so only below a root with
an exact rule. -/
theorem lowestConsecutiveDepth_none_iff (h : ofDirectives case ds = .ok tree)
    (path : List String) (bits : PolicyBits) :
    (tree.lowestConsecutiveDepth path bits = none ↔
      (tree.resolveComponents path).policy.contains bits = false ∨
        (bits = ∅ ∧ ∀ depth rule, ¬ tree.Contributes path depth rule)) ∧
    (bits ≠ ∅ ∨ path = [] ∨ tree.rootRule.kind = .scope →
      (tree.lowestConsecutiveDepth path bits = none ↔
        (tree.resolveComponents path).policy.contains bits = false)) := by
  have hnone : tree.lowestConsecutiveDepth path bits = none ↔
      (tree.resolveComponents path).policy.contains bits = false ∨
        (bits = ∅ ∧ ∀ depth rule, ¬ tree.Contributes path depth rule) := by
    rw [lowestConsecutiveDepth_eq_none h, values_eq_nil_iff h]
    refine ⟨fun hcases => ?_, Or.imp_right And.right⟩
    cases hcontains : (tree.resolveComponents path).policy.contains bits with
    | false => exact .inl rfl
    | true =>
        have hrules := hcases.resolve_left (by simp [hcontains])
        rw [(resolveComponents_agrees h path).policy,
          RuleMap.policy_of_values_nil ((values_eq_nil_iff h).2 hrules)] at hcontains
        exact .inr ⟨eq_empty_of_contains hcontains, hrules⟩
  refine ⟨hnone, fun hcase => hnone.trans (or_iff_left ?_)⟩
  rintro ⟨hempty, hrules⟩
  refine hrules 0 tree.rootRule (tree.contributes_root ?_)
  rcases hcase with hbits | hroot | hscope
  · exact absurd hempty hbits
  · exact .inr hroot
  · exact .inl hscope

/-- The bits of the empty set begin at the root of the sample, where there is a scope rule. -/
theorem lowestConsecutiveDepth_none_iff_sample :
    ofDirectives .insensitive sampleDirectives = .ok sampleTree ∧
      sampleTree.rootRule.kind = .scope ∧
      sampleTree.lowestConsecutiveDepth ["src"] ∅ ≠ none ∧
      sampleTree.lowestConsecutiveDepth ["src"] .deny = none := by
  have hscope : sampleTree.rootRule.kind = .scope := rfl
  obtain ⟨-, hempty⟩ := lowestConsecutiveDepth_none_iff ofDirectives_sampleDirectives ["src"] ∅
  obtain ⟨hveto, -⟩ := lowestConsecutiveDepth_none_iff ofDirectives_sampleDirectives ["src"] .deny
  exact ⟨ofDirectives_sampleDirectives, hscope,
    fun hnone => absurd ((hempty (.inr (.inr hscope))).1 hnone) (by simp), hveto.2 (.inl rfl)⟩

end ScopeTree

end AccessPolicy
