import AccessPolicy.Proofs.Calls
import AccessPolicy.Proofs.Inheritance
import Mathlib.Data.List.Forall2

/-!
# AccessPolicy.Proofs.Monotonicity

What changes of the rules of a manifest do to what it allows.

Two lists of directives *correspond* when they are for the same paths, one by one, and
their rules are related.  Then the rules at every path are related.  A relation of rules
*carries over* to values when related rules leave related values of related ones; then
it relates the policies and cones of every path.

1. Where rules keep and add more, there is more in every policy.
2. Nothing that was allowed is refused, if the rules have the grants that they had and
   no veto that they lacked.

Rule 1 does not make rule 2: the veto is a bit like all others, but less is allowed with it.

* `Corresponding.related`, `Related.policy`, `Related.cone` — carrying over;
* `carriesOver_within` — rule 1, `carriesOver_noStricter` — rule 2;
* `monotone_in_rules` — what it means for trees and for decisions in strict mode.
-/

namespace AccessPolicy

/-! ## Carrying over -/

/-- Related rules are of one kind and leave related values of related ones. -/
structure CarriesOver (R : Rule → Rule → Prop) (S : PolicyBits → PolicyBits → Prop) : Prop where
  kind : ∀ {rule rule'}, R rule rule' → rule.kind = rule'.kind
  empty : S ∅ ∅
  apply : ∀ {rule rule' value value'}, R rule rule' → S value value' →
    S (rule.apply value) (rule'.apply value')

section

variable {R : Rule → Rule → Prop} {S : PolicyBits → PolicyBits → Prop}

/-- Rules by path are related where the same paths are known and have related rules. -/
structure RuleMap.Related (R : Rule → Rule → Prop) (m m' : RuleMap) : Prop where
  knows : ∀ path, m.knows path = m'.knows path
  rule? : ∀ path, Option.Rel R (m.rule? path) (m'.rule? path)

theorem CarriesOver.elim (hR : CarriesOver R S) {o o' : Option Rule} {value value' : PolicyBits}
    (h : Option.Rel R o o') (hvalue : S value value') :
    S (o.elim value (·.apply value)) (o'.elim value' (·.apply value')) := by
  cases h with
  | none => exact hvalue
  | some hrule => exact hR.apply hrule hvalue

theorem foldRules_rel (hR : CarriesOver R S) {f g : List String → Option Rule}
    (h : ∀ p, Option.Rel R (f p) (g p)) (paths : List (List String)) :
    S (foldRules f paths) (foldRules g paths) :=
  List.foldl_rel hR.empty fun p _ _ _ hvalue => hR.elim (h p) hvalue

/-- To leave out rules by their kind leaves related rules related. -/
theorem rel_filter_kind (hR : CarriesOver R S) {o o' : Option Rule} (h : Option.Rel R o o')
    (counts : RuleKind → Bool) :
    Option.Rel R (o.filter (counts ·.kind)) (o'.filter (counts ·.kind)) := by
  cases h with
  | none => exact .none
  | some hrule =>
      rw [Option.filter_some, Option.filter_some, hR.kind hrule]
      split
      · exact .some hrule
      · exact .none

theorem isSome_eq_of_rel {o o' : Option Rule} (h : Option.Rel R o o') : o.isSome = o'.isSome := by
  cases h <;> rfl

namespace RuleMap.Related

variable {m m' : RuleMap} {path : List String}

theorem used? (h : m.Related R m') (hR : CarriesOver R S) (path pre : List String) :
    Option.Rel R (m.used? path pre) (m'.used? path pre) :=
  rel_filter_kind hR (h.rule? pre) fun kind => kind = .scope || pre.length = path.length

theorem inherited? (h : m.Related R m') (hR : CarriesOver R S) (path : List String) :
    Option.Rel R (m.inherited? path) (m'.inherited? path) :=
  rel_filter_kind hR (h.rule? path) fun kind => kind = .scope

theorem policy (h : m.Related R m') (hR : CarriesOver R S) (path : List String) :
    S (m.policy path) (m'.policy path) :=
  foldRules_rel hR (h.used? hR path) path.inits

theorem cone (h : m.Related R m') (hR : CarriesOver R S) (path : List String) :
    S (m.cone path) (m'.cone path) :=
  foldRules_rel hR (h.inherited? hR) path.inits

theorem matchedDepth (h : m.Related R m') (hR : CarriesOver R S) (path : List String) :
    m.matchedDepth path = m'.matchedDepth path :=
  longestPrefix_congr fun pre _ => isSome_eq_of_rel (h.used? hR path pre)

theorem truncated (h : m.Related R m') (path : List String) :
    m.truncated path = m'.truncated path := by
  simp only [RuleMap.truncated, h.knows]

theorem level (h : m.Related R m') (path : List String) : m.level path = m'.level path :=
  longestPrefix_congr fun pre _ => h.knows pre

end RuleMap.Related

/-! ## Directives that correspond -/

namespace Directive

/-- Directives are for the same paths, one by one, and have related rules. -/
def Corresponding (R : Rule → Rule → Prop) (ds ds' : List Directive) : Prop :=
  List.Forall₂ (fun d d' => d.path = d'.path ∧ R d.rule d'.rule) ds ds'

theorem Corresponding.imp {R' : Rule → Rule → Prop} {ds ds' : List Directive}
    (h : Corresponding R ds ds') (hR : ∀ rule rule', R rule rule' → R' rule rule') :
    Corresponding R' ds ds' :=
  List.Forall₂.imp (fun _ _ hd => ⟨hd.1, hR _ _ hd.2⟩) h

/-- The same relation, from the second list to the first. -/
theorem Corresponding.flip {ds ds' : List Directive} (h : Corresponding R ds ds') :
    Corresponding (fun rule rule' => R rule' rule) ds' ds :=
  List.Forall₂.flip (List.Forall₂.imp (fun _ _ hd => ⟨hd.1.symm, hd.2⟩) h)

theorem keys?_congr {d d' : Directive} (h : d.path = d'.path) (case : PathCase) :
    d.keys? case = d'.keys? case := by
  rw [keys?, keys?, h]

/-- What is found by its keys in corresponding lists is related. -/
theorem Corresponding.find? {ds ds' : List Directive} (h : Corresponding R ds ds')
    (case : PathCase) (keys : Option (List String)) :
    Option.Rel R ((ds.find? fun d => d.keys? case = keys).map (·.rule))
      ((ds'.find? fun d => d.keys? case = keys).map (·.rule)) := by
  induction h with
  | nil => exact .none
  | @cons d d' ds ds' hd _ ih =>
      rw [List.find?_cons, List.find?_cons, keys?_congr hd.1]
      split
      · exact .some hd.2
      · exact ih

/-- The rules of corresponding directives are related at every path. -/
theorem Corresponding.related {ds ds' : List Directive} (h : Corresponding R ds ds')
    (case : PathCase) :
    (RuleMap.ofDirectives case ds).Related R (RuleMap.ofDirectives case ds') where
  rule? path := Corresponding.find? (List.forall₂_reverse_iff.2 h) case _
  knows path := by
    simp only [RuleMap.ofDirectives]
    induction h with
    | nil => rfl
    | cons hd _ ih => rw [List.any_cons, List.any_cons, keys?_congr hd.1, ih]

end Directive

end

/-! ## More bits -/

/-- The second rule is of the same kind, and keeps and adds at least as many bits. -/
structure Rule.Within (rule rule' : Rule) : Prop where
  kind : rule.kind = rule'.kind
  mask : rule'.mask.contains rule.mask = true
  policy : rule'.policy.contains rule.policy = true

/-- Where rules keep and add more, they leave more. -/
theorem carriesOver_within : CarriesOver Rule.Within fun value value' => value'.contains value where
  kind h := h.kind
  empty := PolicyBits.contains_self ∅
  apply {rule rule' value value'} h hvalue := by
    have hmask := PolicyBits.contains_iff.1 h.mask
    have hpolicy := PolicyBits.contains_iff.1 h.policy
    rw [PolicyBits.contains_iff] at hvalue ⊢
    intro i hi
    rw [Rule.bit_apply, Bool.or_eq_true, Bool.and_eq_true] at hi ⊢
    exact hi.imp (And.imp (hvalue i) (hmask i)) (hpolicy i)

/-- Two rules agree on the veto, in what they keep and in what they add. -/
structure Rule.SameVeto (rule rule' : Rule) : Prop where
  mask : rule.mask.contains .deny = rule'.mask.contains .deny
  policy : rule.policy.contains .deny = rule'.policy.contains .deny

/-- The second rule is the first one, or adds the veto to what that one adds. -/
structure Rule.AddsVeto (rule rule' : Rule) : Prop where
  kind : rule.kind = rule'.kind
  mask : rule.mask = rule'.mask
  policy : rule'.policy = rule.policy ∨ rule'.policy = rule.policy ∪ .deny

/-! ## No stricter rules -/

/-- The second set has every other bit of the first, and the veto only if the first has it. -/
structure PolicyBits.NoStricter (a b : PolicyBits) : Prop where
  grants : ∀ i, i ≠ 5 → a.bit i = true → b.bit i = true
  veto : b.bit 5 = true → a.bit 5 = true

/-- The second rule is of the same kind, and no stricter in what it keeps and adds. -/
structure Rule.NoStricter (rule rule' : Rule) : Prop where
  kind : rule.kind = rule'.kind
  mask : rule.mask.NoStricter rule'.mask
  policy : rule.policy.NoStricter rule'.policy

/-- Where rules are no stricter, what they leave is no stricter. -/
theorem carriesOver_noStricter : CarriesOver Rule.NoStricter PolicyBits.NoStricter where
  kind h := h.kind
  empty := ⟨fun _ _ hi => hi, id⟩
  apply {rule rule' value value'} h hvalue := by
    constructor
    · intro i hother hi
      rw [Rule.bit_apply, Bool.or_eq_true, Bool.and_eq_true] at hi ⊢
      exact hi.imp (And.imp (hvalue.grants i hother) (h.mask.grants i hother))
        (h.policy.grants i hother)
    · intro hi
      rw [Rule.bit_apply, Bool.or_eq_true, Bool.and_eq_true] at hi ⊢
      exact hi.imp (And.imp hvalue.veto h.mask.veto) h.policy.veto

namespace PolicyBits.NoStricter

variable {a b : PolicyBits}

/-- A grant stays. -/
theorem contains (h : a.NoStricter b) {required : PolicyBits} (hveto : required.bit 5 = false)
    (hrequired : a.contains required = true) : b.contains required = true := by
  rw [contains_iff] at hrequired ⊢
  intro i hi
  refine h.grants i ?_ (hrequired i hi)
  rintro rfl
  rw [hveto] at hi
  cases hi

theorem of_contains (h : b.contains a = true) (hveto : a.contains deny = b.contains deny) :
    a.NoStricter b where
  grants i _ hi := contains_iff.1 h i hi
  veto hi := by rwa [← contains_deny_iff, hveto, contains_deny_iff]

theorem refl (a : PolicyBits) : a.NoStricter a := ⟨fun _ _ hi => hi, id⟩

/-- A set is no stricter without an added veto. -/
theorem union_deny (a : PolicyBits) : (a ∪ deny).NoStricter a where
  grants i hother hi := by simpa [bit_deny, Ne.symm hother] using hi
  veto hi := by rw [bit_union, hi, Bool.true_or]

end PolicyBits.NoStricter

namespace Rule

variable {rule rule' : Rule}

theorem Within.noStricter (h : rule.Within rule') (hveto : rule.SameVeto rule') :
    rule.NoStricter rule' where
  kind := h.kind
  mask := .of_contains h.mask hveto.mask
  policy := .of_contains h.policy hveto.policy

/-- Without the veto that it adds, a rule is no stricter. -/
theorem AddsVeto.noStricter (h : rule.AddsVeto rule') : rule'.NoStricter rule where
  kind := h.kind.symm
  mask := h.mask ▸ .refl rule.mask
  policy := by
    rcases h.policy with hsame | hadded
    · exact hsame ▸ .refl rule.policy
    · exact hadded ▸ .union_deny rule.policy

end Rule

/-- What a policy covers, one that is no stricter covers. -/
theorem Request.Covered.mono {r : Request} {policy policy' : PolicyBits} (hr : r.Covered policy)
    (h : policy.NoStricter policy') : r.Covered policy' := by
  obtain ⟨hveto, hgrants⟩ := hr
  refine ⟨?_, ?_⟩
  · rw [← Bool.not_eq_true, PolicyBits.contains_deny_iff] at hveto ⊢
    exact mt h.veto hveto
  · exact hgrants.imp (h.contains r.operation.bit_required)
      (And.imp_right (And.imp_right (h.contains rfl)))

/-! ## What is allowed -/

namespace ScopeTree

variable {case : PathCase} {ds ds' : List Directive} {tree tree' : ScopeTree}

/-- Whatever an arbiter with the first tree allows in strict mode, one with the second
tree allows. -/
def StrictlyAllowedBy (tree tree' : ScopeTree) : Prop :=
  ∀ (a a' : Arbiter) (live : Nat) (t t' : ProcessTable) (request : Request),
    a.tree = tree → a'.tree = tree' → a.settings.mode = .strict →
    a.tearingDown = a'.tearingDown →
    (Arbiter.arbitrate live a t request).decision.allowed = true →
      (Arbiter.arbitrate live a' t' request).decision.allowed = true

/-- Where rules are no stricter, no request is refused that was allowed. -/
theorem strictlyAllowedBy_of_noStricter (h : ofDirectives case ds = .ok tree)
    (h' : ofDirectives case ds' = .ok tree')
    (hds : Directive.Corresponding Rule.NoStricter ds ds') : tree.StrictlyAllowedBy tree' := by
  rintro a a' live t t' request rfl rfl hstrict hteardown hallowed
  rw [Arbiter.arbitrate] at hallowed ⊢
  by_cases hlive : live + 1 = 1
  · rw [hlive, Arbiter.decision_arbitrateAt_one] at hallowed ⊢
    obtain ⟨path, hpath, hcovered⟩ := Arbiter.covered_of_judge h hstrict hallowed
    have hup : a.tearingDown = false := by
      by_contra hdown
      rw [Arbiter.judge, if_pos (by simpa using hdown)] at hallowed
      cases hallowed
    have hobeys := Arbiter.judge_obeys h' (hteardown.symm.trans hup) request
    rw [Decision.Obeys, hpath] at hobeys
    cases hmode : a'.settings.mode with
    | strict =>
        exact (hobeys.strict hmode).2
          (hcovered.mono ((hds.related case).policy carriesOver_noStricter path))
    | permissive => exact hobeys.permissive hmode
  · rw [Arbiter.arbitrateAt_of_ne_one hlive]
    rfl

/-! ## Changes of rules -/

/-- **Monotonicity**: take trees of directives for the same paths.  If the rules of the
second keep and add more, every policy and every cone has more bits and nothing else of a
result differs.  If they also agree on the veto, whatever was allowed in strict mode is
allowed.  If the second list only adds the veto to some rules, whatever it allows in strict
mode is allowed by the first. -/
theorem monotone_in_rules (h : ofDirectives case ds = .ok tree)
    (h' : ofDirectives case ds' = .ok tree') :
    (Directive.Corresponding Rule.Within ds ds' → ∀ path,
      let r := tree.resolveComponents path
      let r' := tree'.resolveComponents path
      r'.policy.contains r.policy = true ∧ r'.cone.contains r.cone = true ∧
        r.matchedDepth = r'.matchedDepth ∧ r.truncated = r'.truncated ∧
        r.cursor.level = r'.cursor.level) ∧
    (Directive.Corresponding (fun rule rule' => rule.Within rule' ∧ rule.SameVeto rule') ds ds' →
      tree.StrictlyAllowedBy tree') ∧
    (Directive.Corresponding Rule.AddsVeto ds ds' → tree'.StrictlyAllowedBy tree) := by
  refine ⟨fun hds path => ?_, fun hds => ?_, fun hds => ?_⟩
  · have hrelated := hds.related case
    have hr := resolveComponents_agrees h path
    have hr' := resolveComponents_agrees h' path
    refine ⟨?_, ?_, ?_, ?_, ?_⟩
    · rw [hr.policy, hr'.policy]
      exact hrelated.policy carriesOver_within path
    · rw [hr.cone, hr'.cone]
      exact hrelated.cone carriesOver_within path
    · rw [hr.matchedDepth, hr'.matchedDepth, hrelated.matchedDepth carriesOver_within]
    · rw [hr.truncated, hr'.truncated, hrelated.truncated]
    · rw [hr.level, hr'.level, hrelated.level]
  · exact strictlyAllowedBy_of_noStricter h h'
      (hds.imp fun _ _ hrule => hrule.1.noStricter hrule.2)
  · exact strictlyAllowedBy_of_noStricter h' h (hds.flip.imp fun _ _ hrule => hrule.noStricter)

/-- The sample directives with more to read: two rules keep and add more. -/
def widenedDirectives : List Directive :=
  [⟨"/", ⟨.maskAll, .allowRead ∪ .allowEnumerate, .scope⟩⟩,
    ⟨"/src/gen", ⟨.maskAll, .deny, .scope⟩⟩,
    ⟨"\\SRC\\\\gen/", ⟨.maskNone, .allowWrite, .scope⟩⟩,
    ⟨"/src/gen/tool", ⟨.allowRead, .allowEnumerate, .exact⟩⟩]

/-- The sample directives with a veto on generated files. -/
def vetoingDirectives : List Directive :=
  [⟨"/", ⟨.maskAll, .allowRead, .scope⟩⟩, ⟨"/src/gen", ⟨.maskAll, .deny, .scope⟩⟩,
    ⟨"\\SRC\\\\gen/", ⟨.maskNone, .allowWrite ∪ .deny, .scope⟩⟩,
    ⟨"/src/gen/tool", ⟨.maskAll, .allowEnumerate, .exact⟩⟩]

/-- Of the sample, reading generated files stays allowed with the widened rules, and the tool
has all the bits that it had.  What is allowed with the veto is allowed without it. -/
theorem monotone_in_rules_sample :
    ∃ wide vetoing, ofDirectives .insensitive widenedDirectives = .ok wide ∧
      ofDirectives .insensitive vetoingDirectives = .ok vetoing ∧
      (wide.resolveComponents ["src", "gen", "tool"]).policy.contains
        (sampleTree.resolveComponents ["src", "gen", "tool"]).policy = true ∧
      (Arbiter.arbitrate 0 (.create wide ⟨1, .strict, false⟩ .logging) ∅
        ⟨"/src/GEN/x", .read, 1, none, 0, true⟩).decision.allowed = true ∧
      vetoing.StrictlyAllowedBy sampleTree := by
  obtain ⟨wide, hwide⟩ : ∃ tree, ofDirectives .insensitive widenedDirectives = .ok tree := ⟨_, rfl⟩
  obtain ⟨vetoing, hvetoing⟩ : ∃ tree, ofDirectives .insensitive vetoingDirectives = .ok tree :=
    ⟨_, rfl⟩
  have hwidened : Directive.Corresponding
      (fun rule rule' => rule.Within rule' ∧ rule.SameVeto rule')
      sampleDirectives widenedDirectives :=
    .cons ⟨rfl, ⟨rfl, rfl, rfl⟩, rfl, rfl⟩ (.cons ⟨rfl, ⟨rfl, rfl, rfl⟩, rfl, rfl⟩
      (.cons ⟨rfl, ⟨rfl, rfl, rfl⟩, rfl, rfl⟩ (.cons ⟨rfl, ⟨rfl, rfl, rfl⟩, rfl, rfl⟩ .nil)))
  have hvetoed : Directive.Corresponding Rule.AddsVeto sampleDirectives vetoingDirectives :=
    .cons ⟨rfl, rfl, rfl, .inl rfl⟩ (.cons ⟨rfl, rfl, rfl, .inl rfl⟩
      (.cons ⟨rfl, rfl, rfl, .inr rfl⟩ (.cons ⟨rfl, rfl, rfl, .inl rfl⟩ .nil)))
  obtain ⟨hmore, hallowed, -⟩ := monotone_in_rules ofDirectives_sampleDirectives hwide
  obtain ⟨-, -, hveto⟩ := monotone_in_rules ofDirectives_sampleDirectives hvetoing
  have hread : (Arbiter.arbitrate 0 (.create sampleTree ⟨1, .strict, false⟩ .logging) ∅
      ⟨"/src/GEN/x", .read, 1, none, 0, true⟩).decision.allowed = true := by
    rw [Arbiter.arbitrate, Arbiter.decision_arbitrateAt_one]
    rfl
  exact ⟨wide, vetoing, hwide, hvetoing, (hmore (hwidened.imp fun _ _ hrule => hrule.1) _).1,
    hallowed hwidened (.create sampleTree ⟨1, .strict, false⟩ .logging) _ 0 ∅ ∅ _ rfl rfl rfl rfl
      hread, hveto hvetoed⟩

end ScopeTree

end AccessPolicy
