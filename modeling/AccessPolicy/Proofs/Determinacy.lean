import AccessPolicy.Proofs.Resuming
import AccessPolicy.Scope.Outline
import Mathlib.Data.List.Nodup

/-!
# AccessPolicy.Proofs.Determinacy

A tree is determined by the rules that its directives leave in force.

For each path, told by the keys of its components, the last directive for it is in
force.  It does not matter in which order directives for different paths come, which
rules were replaced, or how paths are spelled:

1. where directives leave the same rules in force, there are the same scopes with the
   same rules, though their names may differ in case;
2. where case matters, the name of a scope is its key, so the trees are equal.

* `Forest.withKeys_eq_of_entries` — ordered siblings are determined by what their keys
  lead to;
* `withKeys_eq_of_sameRules` — rule 1, `eq_of_sameRules` — rule 2;
* `Scope.insert_of_ruleAt?` — to insert a rule where it stands changes nothing;
* `determined_by_rules` — what this means for all that a tree shows.
-/

namespace AccessPolicy

/-! ## Siblings without names -/

namespace Forest

/-- The same scopes, each named by its key. -/
def withKeys : Forest → Forest
  | .nil => .nil
  | .cons key _ rule below next => .cons key key rule below.withKeys next.withKeys

theorem size_withKeys (f : Forest) : f.withKeys.size = f.size := by
  induction f with
  | nil => rfl
  | cons key name rule below next ihBelow ihNext => simp only [withKeys, size, ihBelow, ihNext]

theorem ruled_withKeys (f : Forest) : f.withKeys.ruled = f.ruled := by
  induction f with
  | nil => rfl
  | cons key name rule below next ihBelow ihNext => simp only [withKeys, ruled, ihBelow, ihNext]

theorem ruleBelow?_nil_eq_none_iff {f : Forest} {k : String} :
    f.ruleBelow? k [] = none ↔ k ∉ f.keys := by
  rw [← find?_eq_none_iff, ruleBelow?]
  cases f.find? k <;> simp [Scope.at?]

/-- The first of ordered siblings has the least key. -/
theorem not_lt_of_mem_keys {k name x : String} {rule : Option Rule} {below next : Forest}
    (h : (cons k name rule below next).Ordered) (hx : x ∈ (cons k name rule below next).keys) :
    ¬ x < k := by
  rcases List.mem_cons.1 hx with rfl | hnext
  · exact String.lt_irrefl _
  · exact fun hlt => String.lt_irrefl _ (String.lt_trans hlt (h.1 x hnext))

theorem mem_keys_congr {f g : Forest} (h : ∀ k ks, f.ruleBelow? k ks = g.ruleBelow? k ks)
    (k : String) : k ∈ f.keys ↔ k ∈ g.keys := by
  rw [← not_iff_not, ← ruleBelow?_nil_eq_none_iff, ← ruleBelow?_nil_eq_none_iff, h k []]

/-- Ordered siblings are determined, up to names, by what their keys lead to. -/
theorem withKeys_eq_of_entries {f g : Forest} (hf : f.Ordered) (hg : g.Ordered)
    (h : ∀ k ks, f.ruleBelow? k ks = g.ruleBelow? k ks) : f.withKeys = g.withKeys := by
  have hkeys := mem_keys_congr h
  induction f generalizing g with
  | nil =>
      cases g with
      | nil => rfl
      | cons k name rule below next =>
          exact absurd ((hkeys k).2 List.mem_cons_self) List.not_mem_nil
  | cons k name rule below next ihBelow ihNext =>
      cases g with
      | nil => exact absurd ((hkeys k).1 List.mem_cons_self) List.not_mem_nil
      | cons k' name' rule' below' next' =>
          have hfirst : ¬ k' < k := not_lt_of_mem_keys hf ((hkeys k').2 List.mem_cons_self)
          have hfirst' : ¬ k < k' := not_lt_of_mem_keys hg ((hkeys k).1 List.mem_cons_self)
          obtain rfl : k = k' :=
            String.le_antisymm (String.not_lt.1 hfirst) (String.not_lt.1 hfirst')
          have hself (ks : List String) : (Scope.at? ks ⟨rule, below⟩).map (·.rule) =
              (Scope.at? ks ⟨rule', below'⟩).map (·.rule) := by
            rw [← ruleBelow?_cons_self k name rule below next, h,
              ruleBelow?_cons_self k name' rule' below' next']
          have hrule : rule = rule' := Option.some.inj (hself [])
          have hbelow (x : String) (ks : List String) :
              below.ruleBelow? x ks = below'.ruleBelow? x ks := hself (x :: ks)
          have hnext (x : String) (ks : List String) :
              next.ruleBelow? x ks = next'.ruleBelow? x ks := by
            by_cases hx : x = k
            · rw [hx, ruleBelow?_next_of_ordered hf, ruleBelow?_next_of_ordered hg]
            · rw [← ruleBelow?_cons_of_ne hx name rule below next, h,
                ruleBelow?_cons_of_ne hx name' rule' below' next']
          rw [withKeys, withKeys, hrule,
            ihBelow hf.2.1 hg.2.1 hbelow (mem_keys_congr hbelow),
            ihNext hf.2.2 hg.2.2 hnext (mem_keys_congr hnext)]

/-! ## Names -/

theorem withKeys_of_spelled {f : Forest} (h : f.Spelled .sensitive) : f.withKeys = f := by
  induction f with
  | nil => rfl
  | cons key name rule below next ihBelow ihNext =>
      obtain ⟨hkey, hbelow, hnext⟩ := h
      rw [PathCase.key_sensitive] at hkey
      rw [withKeys, ihBelow hbelow, ihNext hnext, hkey]

/-- A change that leaves the scope at a key as it is changes nothing. -/
theorem alter_of_find? {key name : String} {change : Scope → Scope} {f : Forest} {s : Scope}
    (h : f.Ordered) (hs : f.find? key = some s) (hchange : change s = s) :
    f.alter key name change = f := by
  induction f with
  | nil => cases hs
  | cons k n rule below next _ ih =>
      rw [find?] at hs
      rw [alter]
      split
      · rename_i hkey
        rw [if_pos hkey] at hs
        obtain rfl := Option.some.inj hs
        rw [hchange]
      · rename_i hkey
        rw [if_neg hkey] at hs
        have hmem : key ∈ next.keys := by
          by_contra hnot
          rw [find?_eq_none_iff.2 hnot] at hs
          cases hs
        have hnot : ¬ key < k := fun hlt =>
          String.lt_irrefl _ (String.lt_trans hlt (h.1 key hmem))
        rw [if_neg hnot, ih h.2.2 hs]

end Forest

namespace Scope

/-- To insert a rule where it stands changes nothing. -/
theorem insert_of_ruleAt? {case : PathCase} {rule : Rule} {xs : List String} {s : Scope}
    (h : s.below.Ordered) (hrule : s.ruleAt? (xs.map case.key) = some rule) :
    s.insert case rule xs = s := by
  induction xs generalizing s with
  | nil =>
      have hself : s.rule = some rule := hrule
      rw [insert, ← hself]
  | cons x xs ih =>
      rw [List.map_cons, ruleAt?_cons] at hrule
      cases hfound : s.below.find? (case.key x) with
      | none =>
          rw [hfound, Option.getD_none, ruleAt?_blank] at hrule
          cases hrule
      | some t =>
          rw [hfound, Option.getD_some] at hrule
          have ht := ih (Forest.ordered_below_of_find? h hfound) hrule
          rw [insert, Forest.alter_of_find? h hfound ht]

end Scope

/-! ## The rules in force -/

/-- Two lists of directives leave the same rules in force. -/
def Directive.SameRules (case : PathCase) (ds ds' : List Directive) : Prop :=
  ∀ keys, inForce? case ds keys = inForce? case ds' keys

namespace Directive

variable {case : PathCase} {ds ds' : List Directive} {d : Directive} {keys : List String}

/-- A directive stays in force while none for its path brings another rule. -/
theorem inForce?_of_no_other {rule : Rule} {between : List Directive} (first : List Directive)
    (hkeys : d.keys? case = some keys) (hrule : d.rule = rule)
    (hno : ∀ e ∈ between, e.keys? case = some keys → e.rule = rule) :
    inForce? case (first ++ d :: between) keys = some rule := by
  induction between using List.reverseRecOn with
  | nil => rw [inForce?_concat, if_pos hkeys, hrule]
  | append_singleton between e ih =>
      rw [← List.cons_append, ← List.append_assoc, inForce?_concat]
      split
      · rename_i he
        rw [hno e (by simp) he]
      · exact ih fun e he => hno e (List.mem_append_left _ he)

/-- Where no two directives are for the same path, the rule of each is in force. -/
theorem inForce?_eq_some_iff_of_nodup (h : (ds.map (keys? case)).Nodup) {rule : Rule} :
    inForce? case ds keys = some rule ↔ ∃ d ∈ ds, d.keys? case = some keys ∧ d.rule = rule := by
  rw [inForce?, Option.map_eq_some_iff]
  constructor
  · rintro ⟨d, hd, hrule⟩
    exact ⟨d, List.mem_reverse.1 (List.mem_of_find?_eq_some hd),
      by simpa using List.find?_some hd, hrule⟩
  · rintro ⟨d, hd, hkeys, hrule⟩
    have hfound : (ds.reverse.find? fun d => d.keys? case = some keys).isSome = true :=
      List.find?_isSome.2 ⟨d, List.mem_reverse.2 hd, decide_eq_true hkeys⟩
    obtain ⟨e, he⟩ := Option.isSome_iff_exists.1 hfound
    have hsame : e.keys? case = d.keys? case := by
      rw [hkeys]
      simpa using List.find?_some he
    obtain rfl := List.inj_on_of_nodup_map h
      (List.mem_reverse.1 (List.mem_of_find?_eq_some he)) hd hsame
    exact ⟨e, he, hrule⟩

/-- The order of directives for different paths does not matter. -/
theorem sameRules_of_perm (h : (ds.map (keys? case)).Nodup) (hperm : ds.Perm ds') :
    SameRules case ds ds' := by
  intro keys
  refine Option.ext fun rule => ?_
  rw [inForce?_eq_some_iff_of_nodup h,
    inForce?_eq_some_iff_of_nodup ((hperm.map _).nodup_iff.1 h)]
  simp only [hperm.mem_iff]

theorem SameRules.leads_iff (h : SameRules case ds ds') (keys : List String) :
    Leads case ds keys ↔ Leads case ds' keys := by
  simp only [leads_iff_inForce?, h _]

theorem SameRules.ruleMap_eq (h : SameRules case ds ds') :
    RuleMap.ofDirectives case ds = RuleMap.ofDirectives case ds' := by
  rw [RuleMap.ofDirectives, RuleMap.ofDirectives, RuleMap.mk.injEq]
  refine ⟨funext fun path => h (path.map case.key), funext fun path => ?_⟩
  rw [Bool.eq_iff_iff]
  exact RuleMap.knows_ofDirectives_iff.trans
    ((h.leads_iff _).trans RuleMap.knows_ofDirectives_iff.symm)

end Directive

namespace Scope

variable {case : PathCase} {ds ds' : List Directive} {s t : Scope}

/-- Where the same rules are in force, there are the same scopes up to names. -/
theorem Holds.withKeys_eq (h : s.Holds case ds) (h' : t.Holds case ds')
    (hsame : Directive.SameRules case ds ds') : s.below.withKeys = t.below.withKeys := by
  refine Forest.withKeys_eq_of_entries h.ordered h'.ordered fun k ks => ?_
  have hscope : (s.at? (k :: ks)).isSome = (t.at? (k :: ks)).isSome := by
    rw [Bool.eq_iff_iff, h.isSome_at?, h'.isSome_at?, hsame.leads_iff]
  have hrule : s.ruleAt? (k :: ks) = t.ruleAt? (k :: ks) := by
    rw [h.ruleAt?, h'.ruleAt?, hsame]
  rw [Scope.ruleAt?, Scope.ruleAt?] at hrule
  show (s.at? (k :: ks)).map (·.rule) = (t.at? (k :: ks)).map (·.rule)
  cases hs : s.at? (k :: ks) <;> cases ht : t.at? (k :: ks) <;> simp_all

/-- A directive whose rule is in force already changes nothing. -/
theorem insertAll_of_inForce? {before after : List Directive} {d : Directive} {keys : List String}
    (h : ∀ e ∈ before, ∃ cs, Path.components e.path = .ok cs) (hkeys : d.keys? case = some keys)
    (hrule : Directive.inForce? case before keys = some d.rule) :
    blank.insertAll case (before ++ d :: after) = blank.insertAll case (before ++ after) := by
  have hbefore := holds_insertAll case before h
  obtain ⟨cs, hcs, rfl⟩ := Option.map_eq_some_iff.1 hkeys
  rw [insertAll, insertAll, List.foldl_append, List.foldl_append, List.foldl_cons, hcs,
    Option.elim_some]
  congr 1
  exact insert_of_ruleAt? hbefore.ordered ((hbefore.ruleAt? _).trans hrule)

end Scope

/-! ## Trees -/

namespace ScopeTree

variable {case : PathCase} {ds ds' : List Directive} {tree tree' : ScopeTree}

/-- Where the same rules are in force, trees are the same up to names. -/
theorem withKeys_eq_of_sameRules (h : ofDirectives case ds = .ok tree)
    (h' : ofDirectives case ds' = .ok tree') (hsame : Directive.SameRules case ds ds') :
    tree.below.withKeys = tree'.below.withKeys :=
  (holds_of_ofDirectives h).withKeys_eq (holds_of_ofDirectives h') hsame

/-- Where case matters, they are equal. -/
theorem eq_of_sameRules (h : ofDirectives .sensitive ds = .ok tree)
    (h' : ofDirectives .sensitive ds' = .ok tree') (hsame : Directive.SameRules .sensitive ds ds') :
    tree = tree' := by
  have hspelled : tree.below.Spelled .sensitive := (holds_of_ofDirectives h).spelled
  have hspelled' : tree'.below.Spelled .sensitive := (holds_of_ofDirectives h').spelled
  have hbelow := withKeys_eq_of_sameRules h h' hsame
  rw [Forest.withKeys_of_spelled hspelled, Forest.withKeys_of_spelled hspelled'] at hbelow
  have hrule : some tree.rootRule = some tree'.rootRule :=
    ((holds_of_ofDirectives h).ruleAt? []).trans
      ((hsame []).trans ((holds_of_ofDirectives h').ruleAt? []).symm)
  have hcase := (ofDirectives_eq_ok_iff.1 h).2.1.trans (ofDirectives_eq_ok_iff.1 h').2.1.symm
  cases tree
  cases tree'
  simp_all

/-- A directive that brings the rule in force once more changes nothing. -/
theorem ofDirectives_of_repeated {first between after : List Directive} {d d' : Directive}
    (h : ofDirectives case (first ++ d :: between ++ after) = .ok tree)
    (hkeys : d'.keys? case = d.keys? case) (hrule : d'.rule = d.rule)
    (hno : ∀ e ∈ between, e.keys? case = d.keys? case → e.rule = d.rule) :
    ofDirectives case (first ++ d :: between ++ d' :: after) = .ok tree := by
  obtain ⟨⟨hsplit, hfits⟩, hcase, hroot⟩ := ofDirectives_eq_ok_iff.1 h
  obtain ⟨hbefore, hafter⟩ := List.forall_mem_append.1 hsplit
  obtain ⟨cs, hd⟩ := hbefore d (by simp)
  -- The repeated directive leads where the first one does, so it needs no room.
  have hfits' : Directive.Fits case (first ++ d :: between ++ d' :: after) := by
    refine hfits.of_leads fun keys hleads => ?_
    obtain ⟨e, he, whole, hwhole, hpre⟩ := hleads
    rcases List.mem_append.1 he with he | he
    · exact ⟨e, List.mem_append_left _ he, whole, hwhole, hpre⟩
    · rcases List.mem_cons.1 he with rfl | he
      · exact ⟨d, by simp, whole, hkeys ▸ hwhole, hpre⟩
      · exact ⟨e, List.mem_append_right _ he, whole, hwhole, hpre⟩
  rw [Directive.keys?_of_components hd] at hkeys hno
  have hforce := Directive.inForce?_of_no_other first (Directive.keys?_of_components hd case)
    hrule.symm (hrule ▸ hno)
  have hd' : ∃ cs, Path.components d'.path = .ok cs := by
    cases hcs : Path.components d'.path with
    | ok cs => exact ⟨cs, rfl⟩
    | error e => simp [Directive.keys?, hcs, Except.toOption] at hkeys
  refine ofDirectives_eq_ok_iff.2 ⟨⟨?_, hfits'⟩, hcase, ?_⟩
  · exact List.forall_mem_append.2 ⟨hbefore, List.forall_mem_cons.2 ⟨hd', hafter⟩⟩
  · rw [hroot, Scope.insertAll_of_inForce? hbefore hkeys hforce]

end ScopeTree

/-! ## What a tree shows -/

/-- What a result says of its path: policy, cone, depth, whether the search is over, and
its level. -/
def Resolution.findings (r : Resolution) : PolicyBits × PolicyBits × Nat × Bool × Nat :=
  (r.policy, r.cone, r.matchedDepth, r.truncated, r.cursor.level)

/-- Results that agree with the same rules say the same. -/
theorem Resolution.Agrees.findings_eq {r r' : Resolution} {m : RuleMap} {path : List String}
    (h : r.Agrees m path) (h' : r'.Agrees m path) : r.findings = r'.findings := by
  rw [findings, findings, h.policy, h.cone, h.matchedDepth, h.truncated, h.level, h'.policy,
    h'.cone, h'.matchedDepth, h'.truncated, h'.level]

namespace ScopeTree

/-- **Determinacy**: take two lists of directives that describe trees and leave the same
rules in force.  The trees have as many scopes and as many rules, and say the same of every
path, looked for at once or in chunks, by its components or by its text; where case
matters, their outlines are the same.  A directive that is applied again, in whatever
spelling, before its rule is replaced changes nothing at all. -/
theorem determined_by_rules {case : PathCase} {ds ds' : List Directive} {tree tree' : ScopeTree}
    (h : ofDirectives case ds = .ok tree) (h' : ofDirectives case ds' = .ok tree')
    (hsame : Directive.SameRules case ds ds') :
    tree.nodeCount = tree'.nodeCount ∧ tree.explicitCount = tree'.explicitCount ∧
      (∀ first chunks, (tree.resolveChunks first chunks).findings =
        (tree'.resolveChunks first chunks).findings) ∧
      (∀ text, (tree.resolve text).map (·.findings) = (tree'.resolve text).map (·.findings)) ∧
      (case = .sensitive → tree.outline = tree'.outline) ∧
      ∀ first d between after d', ds = first ++ d :: between ++ after →
        d'.keys? case = d.keys? case → d'.rule = d.rule →
        (∀ e ∈ between, e.keys? case = d.keys? case → e.rule = d.rule) →
          ofDirectives case (first ++ d :: between ++ d' :: after) = .ok tree := by
  have hbelow := withKeys_eq_of_sameRules h h' hsame
  have hfindings (path : List String) :
      (tree.resolveComponents path).findings = (tree'.resolveComponents path).findings :=
    (resolveComponents_agrees h path).findings_eq
      (hsame.ruleMap_eq ▸ resolveComponents_agrees h' path)
  refine ⟨?_, ?_, fun first chunks => ?_, fun text => ?_, ?_, ?_⟩
  · rw [nodeCount, nodeCount, ← Forest.size_withKeys, hbelow, Forest.size_withKeys]
  · rw [explicitCount, explicitCount, ← Forest.ruled_withKeys, hbelow, Forest.ruled_withKeys]
  · rw [resolveChunks_eq, resolveChunks_eq, hfindings]
  · rw [resolve, resolve]
    cases Path.components text with
    | error e => rfl
    | ok path => exact congrArg Except.ok (hfindings path)
  · rintro rfl
    rw [eq_of_sameRules h h' hsame]
  · rintro first d between after d' rfl hkeys hrule hno
    exact ofDirectives_of_repeated h hkeys hrule hno

/-- The rules of the sample directives, in another order and spelling and without the rule
that they replace. -/
def respelledDirectives : List Directive :=
  [⟨"/src//GEN/Tool/", ⟨.maskAll, .allowEnumerate, .exact⟩⟩,
    ⟨"\\src\\Gen", ⟨.maskNone, .allowWrite, .scope⟩⟩, ⟨"//", ⟨.maskAll, .allowRead, .scope⟩⟩]

/-- The tree of the respelled directives. -/
def respelledTree : ScopeTree :=
  ⟨.insensitive, ⟨.maskAll, .allowRead, .scope⟩,
    .cons "src" "src" none
      (.cons "gen" "GEN" (some ⟨.maskNone, .allowWrite, .scope⟩)
        (.cons "tool" "Tool" (some ⟨.maskAll, .allowEnumerate, .exact⟩) .nil .nil) .nil) .nil⟩

theorem ofDirectives_respelledDirectives :
    ofDirectives .insensitive respelledDirectives = .ok respelledTree := rfl

theorem sameRules_respelledDirectives :
    Directive.SameRules .insensitive sampleDirectives respelledDirectives := by
  intro keys
  by_cases htool : keys = ["src", "gen", "tool"]
  · subst htool; rfl
  by_cases hgen : keys = ["src", "gen"]
  · subst hgen; rfl
  by_cases hroot : keys = []
  · subst hroot; rfl
  have hother : ∀ d ∈ sampleDirectives ++ respelledDirectives,
      d.keys? .insensitive ≠ some keys := by
    have hkeys : (sampleDirectives ++ respelledDirectives).map (Directive.keys? .insensitive) =
        [some [], some ["src", "gen"], some ["src", "gen"], some ["src", "gen", "tool"],
          some ["src", "gen", "tool"], some ["src", "gen"], some []] := rfl
    intro d hd h
    have hmem := List.mem_map_of_mem (f := Directive.keys? .insensitive) hd
    rw [hkeys, h] at hmem
    simp [htool, hgen, hroot] at hmem
  have hnone (ds : List Directive) (hds : ds ⊆ sampleDirectives ++ respelledDirectives) :
      Directive.inForce? .insensitive ds keys = none := by
    simpa [Directive.inForce?] using fun d hd => hother d (hds hd)
  rw [hnone _ (List.subset_append_left _ _), hnone _ (List.subset_append_right _ _)]

/-- The trees of both lists differ in names only.  Where case matters, the sample directives
are for different paths, and their order does not show. -/
theorem determined_by_rules_sample :
    ofDirectives .insensitive respelledDirectives = .ok respelledTree ∧
      respelledTree ≠ sampleTree ∧
      respelledTree.nodeCount = 4 ∧ respelledTree.explicitCount = 3 ∧
      (respelledTree.resolve "/SRC/gen/x").map (·.findings) =
        (sampleTree.resolve "/SRC/gen/x").map (·.findings) ∧
      ofDirectives .insensitive
        (sampleDirectives ++ [⟨"/SRC/Gen", ⟨.maskNone, .allowWrite, .scope⟩⟩]) = .ok sampleTree ∧
      ∃ tree tree', ofDirectives .sensitive sampleDirectives = .ok tree ∧
        ofDirectives .sensitive sampleDirectives.reverse = .ok tree' ∧
        tree.outline = tree'.outline := by
  obtain ⟨hnodes, hrules, -, htext, -, hrepeat⟩ := determined_by_rules ofDirectives_sampleDirectives
    ofDirectives_respelledDirectives sameRules_respelledDirectives
  have hrepeated := hrepeat (sampleDirectives.take 2) _ (sampleDirectives.drop 3) []
    ⟨"/SRC/Gen", ⟨.maskNone, .allowWrite, .scope⟩⟩ rfl rfl rfl (by decide)
  have hsame : Directive.SameRules .sensitive sampleDirectives sampleDirectives.reverse :=
    Directive.sameRules_of_perm (by decide) (List.reverse_perm _).symm
  obtain ⟨tree, htree⟩ : ∃ tree, ofDirectives .sensitive sampleDirectives = .ok tree := ⟨_, rfl⟩
  obtain ⟨tree', htree'⟩ : ∃ tree, ofDirectives .sensitive sampleDirectives.reverse = .ok tree :=
    ⟨_, rfl⟩
  obtain ⟨-, -, -, -, houtline, -⟩ := determined_by_rules htree htree' hsame
  exact ⟨ofDirectives_respelledDirectives, by decide, hnodes.symm, hrules.symm, (htext _).symm,
    hrepeated, tree, tree', htree, htree', houtline rfl⟩

end ScopeTree

end AccessPolicy
