import AccessPolicy.Proofs.Lookup
import Mathlib.Data.List.Dedup
import Mathlib.Data.List.Infix
import Mathlib.Data.List.Perm.Subperm

/-!
# AccessPolicy.Proofs.Census

The scopes to which directives lead, and how many there are.

A directive leads through the keys of its path, from the root on.  For each path, told by its
keys, the last directive for it is in force.  To insert the rules of directives, one after the
other, makes the scopes that they lead through and no others, each with the rule in force.

A census lists scopes, each once, by the keys that lead to them.  So the number of scopes is
the number of different keys that directives lead through; where this is at most `maxNodes`,
the directives *fit* into a tree.

* `Scope.holds_insertAll` — the scopes of directives and their rules;
* `Forest.mem_census`, `nodup_census` — all scopes by the keys that lead to them;
* `IsCensus.length_eq`, `countP_eq` — how many scopes there are, and how many have rules;
* `fits_iff` — the scopes of directives that fit.
-/

namespace AccessPolicy

/-- A path has at most `maxDepth` components. -/
theorem Path.length_components_le {path : String} {cs : List String}
    (h : (components path).toOption = some cs) : cs.length ≤ maxDepth := by
  unfold components at h
  dsimp only at h
  repeat' split at h
  all_goals simp [Except.toOption] at h
  subst h
  rw [List.length_map]
  omega

/-! ## Directives -/

namespace Directive

/-- The rule that directives leave in force for a path, told by its keys: that of the last
directive for the path. -/
def inForce? (case : PathCase) (ds : List Directive) (keys : List String) : Option Rule :=
  (ds.reverse.find? fun d => d.keys? case = some keys).map (·.rule)

/-- Keys lead to a rule, or further towards one. -/
def Leads (case : PathCase) (ds : List Directive) (keys : List String) : Prop :=
  ∃ d ∈ ds, ∃ whole, d.keys? case = some whole ∧ keys <+: whole

variable {case : PathCase} {ds ds' : List Directive} {d : Directive} {keys : List String}

theorem keys?_of_components {cs : List String} (h : Path.components d.path = .ok cs)
    (case : PathCase) : d.keys? case = some (cs.map case.key) := by
  simp [keys?, h, Except.toOption]

/-- Only the root has no keys. -/
theorem keys?_eq_some_nil_iff : d.keys? case = some [] ↔ Path.components d.path = .ok [] := by
  cases h : Path.components d.path <;> simp [keys?, h, Except.toOption]

theorem inForce?_concat (case : PathCase) (ds : List Directive) (d : Directive)
    (keys : List String) :
    inForce? case (ds ++ [d]) keys =
      if d.keys? case = some keys then some d.rule else inForce? case ds keys := by
  by_cases h : d.keys? case = some keys <;> simp [inForce?, h]

theorem inForce?_isSome_iff :
    (inForce? case ds keys).isSome = true ↔ ∃ d ∈ ds, d.keys? case = some keys := by
  simp [inForce?]

theorem leads_iff_inForce? :
    Leads case ds keys ↔ ∃ whole, keys <+: whole ∧ (inForce? case ds whole).isSome = true := by
  simp only [inForce?_isSome_iff]
  constructor
  · rintro ⟨d, hd, whole, hwhole, hpre⟩
    exact ⟨whole, hpre, d, hd, hwhole⟩
  · rintro ⟨whole, hpre, d, hd, hwhole⟩
    exact ⟨d, hd, whole, hwhole, hpre⟩

/-- A directive that is in force leads to its path. -/
theorem leads_of_inForce? (h : (inForce? case ds keys).isSome = true) : Leads case ds keys :=
  leads_iff_inForce?.2 ⟨keys, List.prefix_rfl, h⟩

theorem leads_concat (case : PathCase) (ds : List Directive) (d : Directive) (keys : List String) :
    Leads case (ds ++ [d]) keys ↔
      Leads case ds keys ∨ ∃ whole, d.keys? case = some whole ∧ keys <+: whole := by
  simp only [Leads, List.mem_append, List.mem_singleton, or_and_right, exists_or,
    exists_eq_left]

theorem Leads.append (h : Leads case ds keys) (more : List Directive) :
    Leads case (ds ++ more) keys := by
  obtain ⟨d, hd, hwhole⟩ := h
  exact ⟨d, List.mem_append_left _ hd, hwhole⟩

/-- Directives lead through no more keys than a path can have components. -/
theorem length_le_of_leads (h : Leads case ds keys) : keys.length ≤ maxDepth := by
  obtain ⟨d, -, whole, hwhole, hpre⟩ := h
  obtain ⟨cs, hcs, rfl⟩ := Option.map_eq_some_iff.1 hwhole
  have hle := hpre.length_le
  rw [List.length_map] at hle
  exact hle.trans (Path.length_components_le hcs)

end Directive

/-- A path is known iff directives lead through its keys. -/
theorem RuleMap.knows_ofDirectives_iff {case : PathCase} {ds : List Directive}
    {path : List String} :
    (ofDirectives case ds).knows path = true ↔ Directive.Leads case ds (path.map case.key) := by
  simp only [ofDirectives, Directive.Leads, List.any_eq_true, Option.any_eq_true,
    List.isPrefixOf_iff_prefix]

/-! ## Scopes of directives -/

namespace Forest

/-- Every name spells the key of its scope. -/
def Spelled (case : PathCase) : Forest → Prop
  | .nil => True
  | .cons key name _ below next => key = case.key name ∧ below.Spelled case ∧ next.Spelled case

theorem spelled_alter {case : PathCase} {name : String} {change : Scope → Scope} {f : Forest}
    (h : f.Spelled case)
    (hchange : ∀ s : Scope, s.below.Spelled case → (change s).below.Spelled case) :
    (f.alter (case.key name) name change).Spelled case := by
  induction f with
  | nil => exact ⟨rfl, hchange .blank trivial, trivial⟩
  | cons k n rule below next _ ih =>
      obtain ⟨hkey, hbelow, hnext⟩ := h
      simp only [alter]
      split
      · exact ⟨hkey, hchange ⟨rule, below⟩ hbelow, hnext⟩
      · split
        · exact ⟨rfl, hchange .blank trivial, hkey, hbelow, hnext⟩
        · exact ⟨hkey, hbelow, ih hnext⟩

end Forest

namespace Scope

theorem spelled_insert {case : PathCase} {rule : Rule} (xs : List String) (s : Scope)
    (h : s.below.Spelled case) : (s.insert case rule xs).below.Spelled case := by
  induction xs generalizing s with
  | nil => exact h
  | cons x xs ih => exact Forest.spelled_alter h ih

/-- Insert the rules of directives, one after the other. -/
def insertAll (case : PathCase) (ds : List Directive) (s : Scope) : Scope :=
  ds.foldl (fun s d => (Path.components d.path).toOption.elim s fun cs => s.insert case d.rule cs) s

/-- Below a root, there are the scopes that directives lead to, with the rules in force. -/
structure Holds (s : Scope) (case : PathCase) (ds : List Directive) : Prop where
  ordered : s.below.Ordered
  spelled : s.below.Spelled case
  ruleAt? : ∀ keys, s.ruleAt? keys = Directive.inForce? case ds keys
  isSome_at? : ∀ keys, (s.at? keys).isSome = true ↔ keys = [] ∨ Directive.Leads case ds keys

variable {case : PathCase} {ds : List Directive} {s : Scope}

theorem holds_blank (case : PathCase) : blank.Holds case [] where
  ordered := trivial
  spelled := trivial
  ruleAt? := ruleAt?_blank
  isSome_at? keys := by simp [isSome_at?_blank, Directive.Leads]

theorem Holds.insert (h : s.Holds case ds) {d : Directive} {cs : List String}
    (hd : Path.components d.path = .ok cs) : (s.insert case d.rule cs).Holds case (ds ++ [d]) := by
  have hkeys := Directive.keys?_of_components hd case
  refine ⟨ordered_insert cs s h.ordered, spelled_insert cs s h.spelled, fun keys => ?_,
    fun keys => ?_⟩
  · rw [ruleAt?_insert h.ordered, h.ruleAt?, Directive.inForce?_concat, hkeys]
    simp only [Option.some.injEq, eq_comm]
  · rw [isSome_at?_insert h.ordered, Bool.or_eq_true, h.isSome_at?, Directive.leads_concat, hkeys,
      List.isPrefixOf_iff_prefix]
    simp only [Option.some.injEq, exists_eq_left']
    tauto

theorem insertAll_concat (ds : List Directive) {d : Directive} {cs : List String}
    (hd : Path.components d.path = .ok cs) (s : Scope) :
    s.insertAll case (ds ++ [d]) = (s.insertAll case ds).insert case d.rule cs := by
  rw [insertAll, List.foldl_append, List.foldl_cons, List.foldl_nil, hd]
  rfl

theorem holds_insertAll (case : PathCase) (ds : List Directive)
    (h : ∀ d ∈ ds, ∃ cs, Path.components d.path = .ok cs) :
    (blank.insertAll case ds).Holds case ds := by
  induction ds using List.reverseRecOn with
  | nil => exact holds_blank case
  | append_singleton ds d ih =>
      obtain ⟨cs, hd⟩ := h d (by simp)
      have hds := ih fun e he => h e (List.mem_append_left _ he)
      rw [insertAll_concat ds hd]
      exact hds.insert hd

end Scope

/-! ## All scopes -/

namespace Forest

/-- What keys lead to among siblings: the rule of a scope, which may be missing, or no
scope at all. -/
def ruleBelow? (f : Forest) (k : String) (ks : List String) : Option (Option Rule) :=
  ((f.find? k).bind (Scope.at? ks)).map (·.rule)

theorem ruleBelow?_cons_self (k name : String) (rule : Option Rule) (below next : Forest)
    (ks : List String) :
    (cons k name rule below next).ruleBelow? k ks = (Scope.at? ks ⟨rule, below⟩).map (·.rule) := by
  rw [ruleBelow?, find?, if_pos rfl, Option.bind_some]

theorem ruleBelow?_cons_of_ne {k k' : String} (h : k' ≠ k) (name : String) (rule : Option Rule)
    (below next : Forest) (ks : List String) :
    (cons k name rule below next).ruleBelow? k' ks = next.ruleBelow? k' ks := by
  rw [ruleBelow?, find?, if_neg h, ruleBelow?]

/-- A key of ordered siblings is not found again further on. -/
theorem ruleBelow?_next_of_ordered {k name : String} {rule : Option Rule} {below next : Forest}
    (h : (cons k name rule below next).Ordered) (ks : List String) :
    next.ruleBelow? k ks = none := by
  have hfree : next.find? k = none := find?_eq_none_iff.2 fun hmem =>
    String.lt_irrefl _ (h.1 k hmem)
  rw [ruleBelow?, hfree]
  rfl

/-- All scopes by the keys that lead to them, with their rules. -/
def census : Forest → List (List String × Option Rule)
  | .nil => []
  | .cons key _ rule below next =>
      ([key], rule) :: (below.census.map fun e => (key :: e.1, e.2)) ++ next.census

theorem length_census (f : Forest) : f.census.length = f.size := by
  induction f with
  | nil => rfl
  | cons key name rule below next ihBelow ihNext =>
      simp only [census, size, List.length_append, List.length_cons, List.length_map, ihBelow,
        ihNext]
      omega

theorem nil_not_mem_census (f : Forest) (rule : Option Rule) : ([], rule) ∉ f.census := by
  induction f with
  | nil => simp [census]
  | cons key name rule' below next _ ihNext => simp [census, ihNext]

/-- A scope is listed iff its keys lead to it. -/
theorem mem_census {f : Forest} (h : f.Ordered) {k : String} {ks : List String}
    {rule : Option Rule} : (k :: ks, rule) ∈ f.census ↔ f.ruleBelow? k ks = some rule := by
  induction f generalizing k ks with
  | nil => simp [census, ruleBelow?, find?]
  | cons key name rule' below next ihBelow ihNext =>
      have hmem : (k :: ks, rule) ∈ (cons key name rule' below next).census ↔
          (k = key ∧ ks = [] ∧ rule = rule') ∨ (k = key ∧ (ks, rule) ∈ below.census) ∨
            next.ruleBelow? k ks = some rule := by
        rw [census, List.cons_append, List.mem_cons, List.mem_append, ihNext h.2.2]
        simp [and_assoc, and_comm, and_left_comm, eq_comm]
      rw [hmem]
      by_cases hk : k = key
      · subst hk
        rw [ruleBelow?_cons_self, ruleBelow?_next_of_ordered h]
        cases ks with
        | nil => simp [nil_not_mem_census, Scope.at?, eq_comm]
        | cons x xs =>
            rw [ihBelow h.2.1]
            simp [ruleBelow?, Scope.at?]
      · rw [ruleBelow?_cons_of_ne hk]
        simp [hk]

/-- No scope is listed twice. -/
theorem nodup_census {f : Forest} (h : f.Ordered) : (f.census.map (·.1)).Nodup := by
  induction f with
  | nil => exact List.nodup_nil
  | cons key name rule below next ihBelow ihNext =>
      have hself : [key] ∉ (below.census.map fun e => (key :: e.1, e.2)).map (·.1) := by
        simpa using fun rule => nil_not_mem_census below rule
      have hnext (ks : List String) : key :: ks ∉ next.census.map (·.1) := by
        intro hmem
        obtain ⟨⟨_, rule⟩, hrule, rfl⟩ := List.mem_map.1 hmem
        rw [mem_census h.2.2, ruleBelow?_next_of_ordered h] at hrule
        cases hrule
      have hbelow : ((below.census.map fun e => (key :: e.1, e.2)).map (·.1)).Nodup := by
        have hmap : (below.census.map fun e => (key :: e.1, e.2)).map (·.1) =
            (below.census.map (·.1)).map (key :: ·) := by simp
        rw [hmap]
        exact (ihBelow h.2.1).map fun _ _ heq => (List.cons.inj heq).2
      rw [census, List.map_append, List.map_cons]
      refine List.nodup_append.2 ⟨List.nodup_cons.2 ⟨hself, hbelow⟩, ihNext h.2.2, ?_⟩
      intro keys hkeys keys' hkeys' heq
      subst heq
      rcases List.mem_cons.1 hkeys with rfl | hkeys
      · exact hnext [] hkeys'
      · obtain ⟨_, he, rfl⟩ := List.mem_map.1 hkeys
        obtain ⟨e, -, rfl⟩ := List.mem_map.1 he
        exact hnext e.1 hkeys'

end Forest

/-! ## How many there are -/

namespace Directive

variable {case : PathCase} {ds : List Directive} {keys : List String}

/-- The keys of the paths of directives. -/
def keyPaths (case : PathCase) (ds : List Directive) : List (List String) :=
  ds.filterMap (keys? case)

/-- All keys that directives lead through, from the root on. -/
def keyPrefixes (case : PathCase) (ds : List Directive) : List (List String) :=
  [] :: (keyPaths case ds).flatMap List.inits

theorem mem_keyPaths : keys ∈ keyPaths case ds ↔ (inForce? case ds keys).isSome = true := by
  rw [keyPaths, List.mem_filterMap, inForce?_isSome_iff]

theorem mem_keyPrefixes : keys ∈ keyPrefixes case ds ↔ keys = [] ∨ Leads case ds keys := by
  simp only [keyPrefixes, keyPaths, List.mem_cons, List.mem_flatMap, List.mem_filterMap,
    List.mem_inits, Leads]
  refine or_congr_right ⟨?_, ?_⟩
  · rintro ⟨whole, ⟨d, hd, hwhole⟩, hpre⟩
    exact ⟨d, hd, whole, hwhole, hpre⟩
  · rintro ⟨d, hd, whole, hwhole, hpre⟩
    exact ⟨whole, ⟨d, hd, hwhole⟩, hpre⟩

theorem length_dedup_eq {l m : List (List String)} (h : l.Nodup)
    (hmem : ∀ keys, keys ∈ l ↔ keys ∈ m) : l.length = m.dedup.length :=
  ((List.perm_ext_iff_of_nodup h (List.nodup_dedup m)).2 fun keys => by
    rw [hmem, List.mem_dedup]).length_eq

/-- A list has the scopes of directives, each once and with the rule in force. -/
structure IsCensus (case : PathCase) (ds : List Directive)
    (census : List (List String × Option Rule)) : Prop where
  nodup : (census.map (·.1)).Nodup
  mem_iff : ∀ keys rule, (keys, rule) ∈ census ↔
    (keys = [] ∨ Leads case ds keys) ∧ inForce? case ds keys = rule

namespace IsCensus

variable {census : List (List String × Option Rule)}

/-- There are as many scopes as directives lead through different keys. -/
theorem length_eq (h : IsCensus case ds census) :
    census.length = (keyPrefixes case ds).dedup.length := by
  rw [← List.length_map (·.1)]
  refine length_dedup_eq h.nodup fun keys => ?_
  simp [mem_keyPrefixes, h.mem_iff]

/-- There are as many rules as directives have different paths. -/
theorem countP_eq (h : IsCensus case ds census) :
    census.countP (·.2.isSome) = (keyPaths case ds).dedup.length := by
  rw [List.countP_eq_length_filter, ← List.length_map (·.1)]
  have hnodup : ((census.filter (·.2.isSome)).map (·.1)).Nodup :=
    h.nodup.sublist (List.filter_sublist.map _)
  refine length_dedup_eq hnodup fun keys => ?_
  rw [mem_keyPaths, List.mem_map]
  constructor
  · rintro ⟨⟨_, rule⟩, hmem, rfl⟩
    obtain ⟨hmem, hrule⟩ := List.mem_filter.1 hmem
    rwa [((h.mem_iff _ _).1 hmem).2]
  · intro hsome
    exact ⟨(keys, inForce? case ds keys),
      List.mem_filter.2 ⟨(h.mem_iff _ _).2 ⟨.inr (leads_of_inForce? hsome), rfl⟩, hsome⟩, rfl⟩

end IsCensus

end Directive

/-- The scopes below a root, and the root itself, are a census. -/
theorem Scope.Holds.isCensus {s : Scope} {case : PathCase} {ds : List Directive}
    (h : s.Holds case ds) : Directive.IsCensus case ds (([], s.rule) :: s.below.census) where
  nodup := by
    rw [List.map_cons, List.nodup_cons]
    refine ⟨?_, Forest.nodup_census h.ordered⟩
    simpa using Forest.nil_not_mem_census s.below
  mem_iff keys rule := by
    rw [← h.isSome_at?, ← h.ruleAt?, List.mem_cons, Scope.ruleAt?]
    cases keys with
    | nil => simp [Forest.nil_not_mem_census, at?, eq_comm]
    | cons k ks =>
        have hbelow : s.below.ruleBelow? k ks = (s.at? (k :: ks)).map (·.rule) := rfl
        rw [Forest.mem_census h.ordered, hbelow]
        cases s.at? (k :: ks) <;> simp

/-! ## Room -/

/-- There are as many scopes as directives lead through different keys. -/
theorem Scope.Holds.size_eq {s : Scope} {case : PathCase} {ds : List Directive}
    (h : s.Holds case ds) : s.size = (Directive.keyPrefixes case ds).dedup.length := by
  rw [← h.isCensus.length_eq, List.length_cons, Forest.length_census, size]

namespace Directive

/-- There is room for the scopes of directives. -/
def Fits (case : PathCase) (ds : List Directive) : Prop :=
  (keyPrefixes case ds).dedup.length ≤ maxNodes

instance (case : PathCase) (ds : List Directive) : Decidable (Fits case ds) :=
  inferInstanceAs (Decidable (_ ≤ _))

variable {case : PathCase} {ds ds' : List Directive}

theorem fits_nil (case : PathCase) : Fits case [] := by
  rw [Fits, keyPrefixes, keyPaths, List.filterMap_nil, List.flatMap_nil]
  decide

/-- Directives that fit do not lead through more different keys than there is room for. -/
theorem Fits.length_le (h : Fits case ds) {l : List (List String)} (hnodup : l.Nodup)
    (hleads : ∀ keys ∈ l, keys = [] ∨ Leads case ds keys) : l.length ≤ maxNodes := by
  have hsubset : l ⊆ (keyPrefixes case ds).dedup := fun keys hkeys =>
    List.mem_dedup.2 (mem_keyPrefixes.2 (hleads keys hkeys))
  exact (List.subperm_of_subset hnodup hsubset).length_le.trans h

/-- Directives that lead nowhere else than others fit where these do. -/
theorem Fits.of_leads (h : Fits case ds')
    (hleads : ∀ keys, Leads case ds keys → Leads case ds' keys) : Fits case ds :=
  h.length_le (List.nodup_dedup _) fun keys hkeys =>
    (mem_keyPrefixes.1 (List.mem_dedup.1 hkeys)).imp_right (hleads keys)

theorem Fits.of_append {more : List Directive} (h : Fits case (ds ++ more)) : Fits case ds :=
  h.of_leads fun _ hleads => hleads.append more

theorem length_keyPrefixes_le (case : PathCase) (ds : List Directive) :
    (keyPrefixes case ds).length ≤ ds.length * (maxDepth + 1) + 1 := by
  rw [keyPrefixes, List.length_cons]
  refine Nat.succ_le_succ ?_
  induction ds with
  | nil => exact Nat.zero_le _
  | cons d ds ih =>
      rw [List.length_cons, Nat.add_mul, Nat.one_mul, keyPaths]
      cases hkeys : d.keys? case with
      | none =>
          rw [List.filterMap_cons_none hkeys]
          exact ih.trans (Nat.le_add_right _ _)
      | some keys =>
          have hdepth : keys.length ≤ maxDepth :=
            length_le_of_leads ⟨d, List.mem_singleton_self d, keys, hkeys, List.prefix_rfl⟩
          rw [List.filterMap_cons_some hkeys, List.flatMap_cons, List.length_append,
            List.length_inits, Nat.add_comm]
          exact Nat.add_le_add ih (Nat.succ_le_succ hdepth)

/-- Fewer than 65536 directives always fit. -/
theorem fits_of_length_le (case : PathCase) (h : ds.length ≤ maxDepth) : Fits case ds := by
  calc (keyPrefixes case ds).dedup.length
    _ ≤ (keyPrefixes case ds).length := (List.dedup_sublist _).length_le
    _ ≤ ds.length * (maxDepth + 1) + 1 := length_keyPrefixes_le case ds
    _ ≤ maxDepth * (maxDepth + 1) + 1 := Nat.succ_le_succ (Nat.mul_le_mul_right _ h)
    _ ≤ maxNodes := by decide

/-- Directives fit iff the scopes in which their rules are inserted are not too many. -/
theorem fits_iff (h : ∀ d ∈ ds, ∃ cs, Path.components d.path = .ok cs) :
    Fits case ds ↔ (Scope.blank.insertAll case ds).size ≤ maxNodes := by
  rw [(Scope.holds_insertAll case ds h).size_eq, Fits]

end Directive

end AccessPolicy
