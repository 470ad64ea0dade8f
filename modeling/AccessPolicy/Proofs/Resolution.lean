import AccessPolicy.Proofs.Building

/-!
# AccessPolicy.Proofs.Resolution

Searching a tree finds what the rules by path say.

A cursor has *followed* a path when its level, cone and depth are those that the rules
say of the path, and its scope is the one to which the keys of the path lead.  The
root cursor has followed the empty path, and every step follows one component more.

* `resolveComponents_agrees` — what a search finds agrees with the rules of the directives of
  which the tree was built;
* `resolve_eq_rules` — so it is for every list of directives and every text of a path.
-/

namespace AccessPolicy

/-- A result is the one that rules by path say. -/
structure Resolution.Agrees (r : Resolution) (m : RuleMap) (path : List String) : Prop where
  policy : r.policy = m.policy path
  cone : r.cone = m.cone path
  matchedDepth : r.matchedDepth = m.matchedDepth path
  truncated : r.truncated = m.truncated path
  level : r.cursor.level = m.level path

namespace ScopeTree

variable {tree : ScopeTree} {path : List String}

/-! ## Known paths -/

theorem knows_concat (tree : ScopeTree) (path : List String) (x : String) :
    tree.ruleMap.knows (path ++ [x]) =
      (tree.root.at? (path.map tree.case.key)).any fun s =>
        (s.below.find? (tree.case.key x)).isSome := by
  simp only [ruleMap, List.map_append, List.map_singleton, Scope.at?_concat]
  cases tree.root.at? (path.map tree.case.key) <;> rfl

/-- A path that is not known leads nowhere. -/
theorem at?_of_not_knows (h : tree.ruleMap.knows path = false) :
    tree.root.at? (path.map tree.case.key) = none := by
  simpa [ruleMap] using h

/-- Below a path that leads nowhere, nothing is known. -/
theorem knows_concat_of_not (h : tree.ruleMap.knows path = false) (x : String) :
    tree.ruleMap.knows (path ++ [x]) = false := by
  rw [knows_concat, at?_of_not_knows h]
  rfl

/-- A path that is not known throughout is not known. -/
theorem truncated_ruleMap (tree : ScopeTree) (path : List String) :
    tree.ruleMap.truncated path = !tree.ruleMap.knows path := by
  induction path using List.reverseRecOn with
  | nil => rfl
  | append_singleton path x ih =>
      rw [RuleMap.truncated_concat, ih]
      cases h : tree.ruleMap.knows path with
      | false => simp [knows_concat_of_not h]
      | true => simp

theorem rule?_of_not_knows (h : tree.ruleMap.knows path = false) :
    tree.ruleMap.rule? path = none := by
  simp [ruleMap, Scope.ruleAt?, at?_of_not_knows h]

/-- Where there is a rule, the path is known. -/
theorem knows_of_rule? {rule : Rule} (h : tree.ruleMap.rule? path = some rule) :
    tree.ruleMap.knows path = true := by
  by_contra hnot
  rw [rule?_of_not_knows (by simpa using hnot)] at h
  cases h

theorem inherited?_of_not_knows (h : tree.ruleMap.knows path = false) :
    tree.ruleMap.inherited? path = none := by
  rw [RuleMap.inherited?, rule?_of_not_knows h]
  rfl

theorem rule?_of_at? {s : Scope} (h : tree.root.at? (path.map tree.case.key) = some s) :
    tree.ruleMap.rule? path = s.rule := by
  simp [ruleMap, Scope.ruleAt?, h]

theorem inherited?_of_at? {s : Scope} (h : tree.root.at? (path.map tree.case.key) = some s) :
    tree.ruleMap.inherited? path = s.inheritedRule? := by
  rw [RuleMap.inherited?, rule?_of_at? h, Scope.inheritedRule?]

theorem knows_of_at? {s : Scope} (h : tree.root.at? (path.map tree.case.key) = some s) :
    tree.ruleMap.knows path = true := by
  simp [ruleMap, h]

end ScopeTree

/-! ## Following a path -/

namespace Cursor

/-- A position that a search of a tree has reached along a path. -/
structure Followed (c : Cursor) (tree : ScopeTree) (path : List String) : Prop where
  scope : c.truncated = false → tree.root.at? (path.map tree.case.key) = some c.scope
  level : c.level = tree.ruleMap.level path
  cone : c.cone = tree.ruleMap.cone path
  coneDepth : c.coneDepth = tree.ruleMap.coneDepth path
  truncated : c.truncated = tree.ruleMap.truncated path

variable {tree : ScopeTree} {path : List String} {c : Cursor}

theorem followed_rootCursor (tree : ScopeTree) : tree.rootCursor.Followed tree [] where
  scope _ := rfl
  level := (longestPrefix_nil _).symm
  cone := by
    have hinherited : tree.ruleMap.inherited? [] = tree.root.inheritedRule? :=
      ScopeTree.inherited?_of_at? rfl
    simp [RuleMap.cone, foldRules, hinherited, ScopeTree.rootCursor, atRoot]
  coneDepth := (longestPrefix_nil _).symm
  truncated := rfl

/-- A search is over where its path is not known. -/
theorem Followed.not_knows (h : c.Followed tree path) (hover : c.truncated = true) :
    tree.ruleMap.knows path = false := by
  have htruncated := h.truncated
  rw [hover, ScopeTree.truncated_ruleMap] at htruncated
  simpa using htruncated.symm

/-- A search that is over has followed every longer path. -/
theorem Followed.concat_of_truncated (h : c.Followed tree path) (hover : c.truncated = true)
    (x : String) : c.Followed tree (path ++ [x]) := by
  have hknows := ScopeTree.knows_concat_of_not (h.not_knows hover) x
  have hrule := ScopeTree.inherited?_of_not_knows hknows
  refine ⟨fun hlive => absurd hover (by simp [hlive]), ?_, ?_, ?_, ?_⟩
  · rw [h.level, RuleMap.level_concat_of_not _ hknows]
  · rw [h.cone, RuleMap.cone_concat_of_none _ hrule]
  · rw [h.coneDepth, RuleMap.coneDepth_concat_of_none _ hrule]
  · rw [RuleMap.truncated_concat, ← h.truncated, hover, Bool.true_or]

/-- A component that finds no scope ends the search. -/
theorem Followed.concat_of_none {x : String} (h : c.Followed tree path)
    (hlive : c.truncated = false) (hnone : c.scope.below.find? (tree.case.key x) = none) :
    Followed { c with truncated := true } tree (path ++ [x]) := by
  have hknows : tree.ruleMap.knows (path ++ [x]) = false := by
    rw [ScopeTree.knows_concat, h.scope hlive, Option.any_some, hnone]
    rfl
  have hrule := ScopeTree.inherited?_of_not_knows hknows
  refine ⟨nofun, ?_, ?_, ?_, ?_⟩
  · rw [h.level, RuleMap.level_concat_of_not _ hknows]
  · rw [h.cone, RuleMap.cone_concat_of_none _ hrule]
  · rw [h.coneDepth, RuleMap.coneDepth_concat_of_none _ hrule]
  · rw [RuleMap.truncated_concat, hknows, Bool.not_false, Bool.or_true]

/-- A component that finds a scope leads there, one level further. -/
theorem Followed.concat_of_some {x : String} {s : Scope} (h : c.Followed tree path)
    (hlive : c.truncated = false) (hsome : c.scope.below.find? (tree.case.key x) = some s)
    (hroom : path.length < maxLevel) : (c.enter s).Followed tree (path ++ [x]) := by
  have hlevel : c.level = path.length := by
    rw [h.level, RuleMap.level_of_knows _ (ScopeTree.knows_of_at? (h.scope hlive))]
  have hnext : nextLevel c.level = (path ++ [x]).length := by
    rw [hlevel, nextLevel, Nat.min_eq_left hroom, List.length_append, List.length_singleton]
  have hat : tree.root.at? ((path ++ [x]).map tree.case.key) = some s := by
    rw [List.map_append, List.map_singleton, Scope.at?_concat, h.scope hlive]
    exact hsome
  have hknows := ScopeTree.knows_of_at? hat
  have hrule := ScopeTree.inherited?_of_at? hat
  have htruncated : false = tree.ruleMap.truncated (path ++ [x]) := by
    rw [ScopeTree.truncated_ruleMap, hknows]
    rfl
  have hknown : (path ++ [x]).length = tree.ruleMap.level (path ++ [x]) :=
    (RuleMap.level_of_knows _ hknows).symm
  unfold enter
  cases hinherited : s.inheritedRule? with
  | none =>
      rw [hinherited] at hrule
      refine ⟨fun _ => hat, hnext.trans hknown, ?_, ?_, hlive.trans htruncated⟩
      · rw [h.cone, RuleMap.cone_concat_of_none _ hrule]
      · rw [h.coneDepth, RuleMap.coneDepth_concat_of_none _ hrule]
  | some rule =>
      rw [hinherited] at hrule
      refine ⟨fun _ => hat, hnext.trans hknown, ?_, ?_, htruncated⟩
      · rw [RuleMap.cone_concat, hrule, ← h.cone]
        rfl
      · rw [RuleMap.coneDepth_of_some _ hrule]
        exact hnext

/-- The step of a search follows one component more, unless the tree is too deep. -/
theorem Followed.step {x : String} (h : c.Followed tree path)
    (hroom : tree.ruleMap.knows (path ++ [x]) = true → path.length < maxLevel) :
    (c.step tree.case x).Followed tree (path ++ [x]) := by
  unfold Cursor.step
  cases hover : c.truncated with
  | true => exact h.concat_of_truncated hover x
  | false =>
      cases hfound : c.scope.below.find? (tree.case.key x) with
      | none => exact h.concat_of_none hover hfound
      | some s =>
          refine h.concat_of_some hover hfound (hroom ?_)
          rw [ScopeTree.knows_concat, h.scope hover, Option.any_some, hfound]
          rfl

/-- **Search**: from the root, a search follows the components of its path. -/
theorem followed_advance (tree : ScopeTree)
    (hdeep : ∀ p, tree.ruleMap.knows p = true → p.length ≤ maxLevel) (path : List String) :
    (tree.rootCursor.advance tree.case path).Followed tree path := by
  induction path using List.reverseRecOn with
  | nil => exact followed_rootCursor tree
  | append_singleton path x ih =>
      rw [advance_append]
      refine ih.step fun hknows => ?_
      have hlen := hdeep _ hknows
      rw [List.length_append] at hlen
      exact hlen

/-- The exact rule at the position of a search is that of its path. -/
theorem Followed.exactRule?_eq (h : c.Followed tree path) :
    c.exactRule? = (tree.ruleMap.rule? path).filter (·.kind = .exact) := by
  unfold exactRule?
  cases hover : c.truncated with
  | true =>
      rw [if_pos rfl, ScopeTree.rule?_of_not_knows (h.not_knows hover)]
      rfl
  | false =>
      rw [if_neg (by decide), ScopeTree.rule?_of_at? (h.scope hover)]
      rfl

/-- What a search that ends finds for its path is what the rules say. -/
theorem Followed.resolution (h : c.Followed tree path) : c.resolution.Agrees tree.ruleMap path := by
  unfold Cursor.resolution
  cases hexact : c.exactRule? with
  | some rule =>
      rw [h.exactRule?_eq, Option.filter_eq_some_iff, decide_eq_true_eq] at hexact
      obtain ⟨hrule, hkind⟩ := hexact
      have hknows := ScopeTree.knows_of_rule? hrule
      refine ⟨?_, h.cone, ?_, h.truncated, h.level⟩
      · rw [RuleMap.policy_of_exact hrule hkind, ← h.cone]
      · rw [RuleMap.matchedDepth_of_exact hrule, ← RuleMap.level_of_knows _ hknows]
        exact h.level
  | none =>
      rw [h.exactRule?_eq, Option.filter_eq_none_iff] at hexact
      have hscope (rule : Rule) (hrule : tree.ruleMap.rule? path = some rule) :
          rule.kind = .scope := by
        have hnot := hexact rule hrule
        cases hkind : rule.kind with
        | scope => rfl
        | exact => simp [hkind] at hnot
      refine ⟨?_, h.cone, ?_, h.truncated, h.level⟩
      · rw [RuleMap.policy_of_no_exact hscope, ← h.cone]
      · rw [RuleMap.matchedDepth_of_no_exact hscope, ← h.coneDepth]

end Cursor

/-! ## Results -/

namespace ScopeTree

variable {case : PathCase} {ds : List Directive} {tree : ScopeTree}

/-- A search of a built tree follows its path. -/
theorem followed_of_ofDirectives (h : ofDirectives case ds = .ok tree) (path : List String) :
    (tree.rootCursor.advance tree.case path).Followed tree path := by
  refine Cursor.followed_advance tree (fun p hp => ?_) path
  rw [ruleMap_of_ofDirectives h] at hp
  exact length_le_of_knows hp

/-- What a search of a built tree finds is what the rules of the directives say. -/
theorem resolveComponents_agrees (h : ofDirectives case ds = .ok tree) (path : List String) :
    (tree.resolveComponents path).Agrees (.ofDirectives case ds) path := by
  rw [← ruleMap_of_ofDirectives h]
  exact (followed_of_ofDirectives h path).resolution

/-- **Resolution**: directives describe a tree iff every path can be split, one of them is
for the root, and there is room for their scopes.  Whatever path is then looked for, by its
components or by its text, is found in every respect as the rules of the directives say of
its prefixes. -/
theorem resolve_eq_rules (case : PathCase) (ds : List Directive) :
    ((∃ tree, ofDirectives case ds = .ok tree) ↔
      (∀ d ∈ ds, ∃ cs, Path.components d.path = .ok cs) ∧
        (∃ d ∈ ds, Path.components d.path = .ok []) ∧ Directive.Fits case ds) ∧
    ∀ tree, ofDirectives case ds = .ok tree →
      (∀ path, (tree.resolveComponents path).Agrees (.ofDirectives case ds) path) ∧
      ∀ text path, Path.components text = .ok path →
        ∃ r, tree.resolve text = .ok r ∧ r.Agrees (.ofDirectives case ds) path := by
  refine ⟨exists_ofDirectives_eq_ok_iff, fun tree h => ⟨resolveComponents_agrees h, ?_⟩⟩
  intro text path hpath
  exact ⟨tree.resolveComponents path, by rw [resolve, hpath]; rfl, resolveComponents_agrees h path⟩

/-- Directives that replace a rule under another spelling of its path, with an exact
rule below it. -/
def sampleDirectives : List Directive :=
  [⟨"/", ⟨.maskAll, .allowRead, .scope⟩⟩, ⟨"/src/gen", ⟨.maskAll, .deny, .scope⟩⟩,
    ⟨"\\SRC\\\\gen/", ⟨.maskNone, .allowWrite, .scope⟩⟩,
    ⟨"/src/gen/tool", ⟨.maskAll, .allowEnumerate, .exact⟩⟩]

/-- The tree of the sample directives. -/
def sampleTree : ScopeTree :=
  ⟨.insensitive, ⟨.maskAll, .allowRead, .scope⟩,
    .cons "src" "src" none
      (.cons "gen" "gen" (some ⟨.maskNone, .allowWrite, .scope⟩)
        (.cons "tool" "tool" (some ⟨.maskAll, .allowEnumerate, .exact⟩) .nil .nil) .nil) .nil⟩

theorem ofDirectives_sampleDirectives :
    ofDirectives .insensitive sampleDirectives = .ok sampleTree := rfl

/-- Below the exact rule of the sample, the scope rules above it are found. -/
theorem resolve_eq_rules_sample :
    ofDirectives .insensitive sampleDirectives = .ok sampleTree ∧
      Path.components "/Src/GEN/tool/x" = .ok ["Src", "GEN", "tool", "x"] ∧
      ∃ r, sampleTree.resolve "/Src/GEN/tool/x" = .ok r ∧
        r.policy = .allowRead ∪ .allowWrite ∧ r.cone = .allowRead ∪ .allowWrite ∧
        r.matchedDepth = 2 ∧ r.truncated = true ∧ r.cursor.level = 3 := by
  have hpath : Path.components "/Src/GEN/tool/x" = .ok ["Src", "GEN", "tool", "x"] := rfl
  obtain ⟨r, hr, hagrees⟩ := ((resolve_eq_rules .insensitive sampleDirectives).2 sampleTree
    ofDirectives_sampleDirectives).2 _ _ hpath
  exact ⟨ofDirectives_sampleDirectives, hpath, r, hr, hagrees.policy.trans rfl,
    hagrees.cone.trans rfl, hagrees.matchedDepth.trans rfl, hagrees.truncated.trans rfl,
    hagrees.level.trans rfl⟩

end ScopeTree

end AccessPolicy
