import AccessPolicy.Manifest
import Mathlib.Data.List.Infix

/-!
# AccessPolicy.Proofs.RuleMap

What a path inherits, said of its prefixes one after the other and without any tree.

A `RuleMap` knows which rule stands at which path.  The policy of a path starts from
the empty set and passes the prefixes of the path in increasing length:

1. a scope rule always takes part;
2. an exact rule takes part at the whole path only.

The cone of a path is the same without rule 2.

* `policy_of_exact`, `policy_of_no_exact` — policy and cone differ by the exact rule of
  the path itself;
* `cone_concat` — one component more is at most one rule more.
-/

namespace AccessPolicy

/-! ## Longest prefixes -/

/-- The length of the longest prefix of a path with a property, or 0 if there is none. -/
def longestPrefix (holds : List String → Bool) (path : List String) : Nat :=
  ((path.inits.filter holds).map List.length).foldl max 0

theorem inits_concat (path : List String) (x : String) :
    (path ++ [x]).inits = path.inits ++ [path ++ [x]] := by
  simp [List.inits_append]

/-- The proper prefixes of a path are shorter, and the path is its own last prefix. -/
theorem exists_inits_eq (path : List String) :
    ∃ proper, path.inits = proper ++ [path] ∧ ∀ p ∈ proper, p.length < path.length := by
  induction path using List.reverseRecOn with
  | nil => exact ⟨[], rfl, by simp⟩
  | append_singleton path x _ =>
      refine ⟨path.inits, inits_concat path x, fun p hp => ?_⟩
      have hle := ((List.mem_inits p path).1 hp).length_le
      simp only [List.length_append, List.length_singleton]
      omega

theorem longestPrefix_nil (holds : List String → Bool) : longestPrefix holds [] = 0 := by
  cases h : holds [] <;> simp [longestPrefix, h]

theorem longestPrefix_concat (holds : List String → Bool) (path : List String) (x : String) :
    longestPrefix holds (path ++ [x]) =
      if holds (path ++ [x]) then max (longestPrefix holds path) (path.length + 1)
      else longestPrefix holds path := by
  cases h : holds (path ++ [x]) <;> simp [longestPrefix, List.filter_append, h]

theorem longestPrefix_le (holds : List String → Bool) (path : List String) :
    longestPrefix holds path ≤ path.length := by
  induction path using List.reverseRecOn with
  | nil => rw [longestPrefix_nil]; exact Nat.zero_le _
  | append_singleton path x ih =>
      rw [longestPrefix_concat, List.length_append, List.length_singleton]
      split <;> omega

theorem longestPrefix_of_not {holds : List String → Bool} {path : List String} {x : String}
    (h : holds (path ++ [x]) = false) :
    longestPrefix holds (path ++ [x]) = longestPrefix holds path := by
  rw [longestPrefix_concat, h, if_neg (by decide)]

/-- A path with the property is its own longest prefix. -/
theorem longestPrefix_of_holds {holds : List String → Bool} {path : List String}
    (h : holds path = true) : longestPrefix holds path = path.length := by
  induction path using List.reverseRecOn with
  | nil => exact longestPrefix_nil holds
  | append_singleton path x _ =>
      have hle := longestPrefix_le holds path
      rw [longestPrefix_concat, if_pos h, List.length_append, List.length_singleton]
      omega

theorem longestPrefix_congr {f g : List String → Bool} {path : List String}
    (h : ∀ p ∈ path.inits, f p = g p) : longestPrefix f path = longestPrefix g path := by
  rw [longestPrefix, longestPrefix, List.filter_congr h]

/-! ## Rules by path -/

/-- Rules by path. -/
structure RuleMap where
  /-- The rule at a path. -/
  rule? : List String → Option Rule
  /-- Whether a path leads to a rule, or further towards one. -/
  knows : List String → Bool

/-- What rules leave of the empty set, path after path. -/
def foldRules (rule? : List String → Option Rule) (paths : List (List String)) : PolicyBits :=
  paths.foldl (fun effective p => (rule? p).elim effective (·.apply effective)) ∅

namespace RuleMap

variable (m : RuleMap)

/-- The rule at a path that everything below it inherits. -/
def inherited? (path : List String) : Option Rule :=
  (m.rule? path).filter (·.kind = .scope)

/-- The rule at a prefix of `path` that takes part in the policy of `path`: a scope rule
always, an exact rule at the whole path only. -/
def used? (path : List String) (pre : List String) : Option Rule :=
  (m.rule? pre).filter fun rule => rule.kind = .scope || pre.length = path.length

/-- The policy of a path. -/
def policy (path : List String) : PolicyBits := foldRules (m.used? path) path.inits

/-- What the paths below a path inherit. -/
def cone (path : List String) : PolicyBits := foldRules m.inherited? path.inits

/-- The length of the longest prefix whose rule takes part in the cone. -/
def coneDepth (path : List String) : Nat :=
  longestPrefix (fun p => (m.inherited? p).isSome) path

/-- The length of the longest prefix whose rule takes part in the policy. -/
def matchedDepth (path : List String) : Nat :=
  longestPrefix (fun p => (m.used? path p).isSome) path

/-- Whether a prefix of a path leads to no rule. -/
def truncated (path : List String) : Bool := path.inits.any (!m.knows ·)

/-- The length of the longest prefix that leads to a rule or further towards one. -/
def level (path : List String) : Nat := longestPrefix m.knows path

/-! ## One component more -/

theorem cone_concat (path : List String) (x : String) :
    m.cone (path ++ [x]) =
      (m.inherited? (path ++ [x])).elim (m.cone path) (·.apply (m.cone path)) := by
  simp [cone, foldRules]

/-- Where no rule is inherited, the cone stays as it is. -/
theorem cone_concat_of_none {path : List String} {x : String}
    (h : m.inherited? (path ++ [x]) = none) : m.cone (path ++ [x]) = m.cone path := by
  rw [cone_concat, h]
  rfl

theorem coneDepth_concat_of_none {path : List String} {x : String}
    (h : m.inherited? (path ++ [x]) = none) : m.coneDepth (path ++ [x]) = m.coneDepth path :=
  longestPrefix_of_not (by rw [h]; rfl)

theorem coneDepth_of_some {path : List String} {rule : Rule}
    (h : m.inherited? path = some rule) : m.coneDepth path = path.length :=
  longestPrefix_of_holds (by rw [h]; rfl)

theorem level_concat_of_not {path : List String} {x : String}
    (h : m.knows (path ++ [x]) = false) : m.level (path ++ [x]) = m.level path :=
  longestPrefix_of_not h

theorem level_of_knows {path : List String} (h : m.knows path = true) :
    m.level path = path.length :=
  longestPrefix_of_holds h

theorem truncated_concat (path : List String) (x : String) :
    m.truncated (path ++ [x]) = (m.truncated path || !m.knows (path ++ [x])) := by
  simp [truncated, Bool.or_comm]

variable {m}

/-! ## Policy and cone -/

theorem foldRules_congr {f g : List String → Option Rule} {paths : List (List String)}
    (h : ∀ p ∈ paths, f p = g p) : foldRules f paths = foldRules g paths := by
  unfold foldRules
  exact List.foldl_ext _ _ _ fun _ p hp => by rw [h p hp]

/-- At a proper prefix the same rule takes part in the policy as in the cone. -/
theorem used?_of_lt {path pre : List String} (h : pre.length < path.length) :
    m.used? path pre = m.inherited? pre := by
  simp [used?, inherited?, Nat.ne_of_lt h]

/-- Without an exact rule of its own, a path is ruled by what it hands on. -/
theorem used?_of_no_exact {path pre : List String}
    (h : ∀ rule, m.rule? path = some rule → rule.kind = .scope) (hpre : pre ∈ path.inits) :
    m.used? path pre = m.inherited? pre := by
  have hpre := (List.mem_inits pre path).1 hpre
  rcases Nat.lt_or_eq_of_le hpre.length_le with hlt | heq
  · exact used?_of_lt hlt
  · obtain rfl := hpre.eq_of_length heq
    cases hrule : m.rule? pre with
    | none => simp [used?, inherited?, hrule]
    | some rule =>
        have hkind := h rule hrule
        simp [used?, inherited?, hrule, Option.filter, hkind]

theorem policy_of_no_exact {path : List String}
    (h : ∀ rule, m.rule? path = some rule → rule.kind = .scope) : m.policy path = m.cone path :=
  foldRules_congr fun _ hp => used?_of_no_exact h hp

theorem matchedDepth_of_no_exact {path : List String}
    (h : ∀ rule, m.rule? path = some rule → rule.kind = .scope) :
    m.matchedDepth path = m.coneDepth path :=
  longestPrefix_congr fun _ hp => by rw [used?_of_no_exact h hp]

/-- The exact rule of a path comes after everything that the path hands on. -/
theorem policy_of_exact {path : List String} {rule : Rule} (h : m.rule? path = some rule)
    (hkind : rule.kind = .exact) : m.policy path = rule.apply (m.cone path) := by
  obtain ⟨proper, hinits, hlt⟩ := exists_inits_eq path
  have hused : m.used? path path = some rule := by simp [used?, h]
  have hnone : m.inherited? path = none := by simp [inherited?, h, hkind]
  have hproper : foldRules (m.used? path) proper = foldRules m.inherited? proper :=
    foldRules_congr fun p hp => used?_of_lt (hlt p hp)
  rw [foldRules, foldRules] at hproper
  simp [policy, cone, foldRules, hinits, hused, hnone, hproper]

theorem matchedDepth_of_exact {path : List String} {rule : Rule} (h : m.rule? path = some rule) :
    m.matchedDepth path = path.length :=
  longestPrefix_of_holds (by simp [used?, h])

end RuleMap

/-! ## The rules of directives -/

/-- The keys of the components of a directive, unless its path is malformed. -/
def Directive.keys? (case : PathCase) (d : Directive) : Option (List String) :=
  (Path.components d.path).toOption.map (·.map case.key)

/-- The rules of directives.  At a path stands the rule of the last directive whose
components have the keys of the path; known are the prefixes of such paths. -/
def RuleMap.ofDirectives (case : PathCase) (ds : List Directive) : RuleMap where
  rule? path := (ds.reverse.find? fun d => d.keys? case = some (path.map case.key)).map (·.rule)
  knows path := ds.any fun d => (d.keys? case).any fun keys => (path.map case.key).isPrefixOf keys

end AccessPolicy
