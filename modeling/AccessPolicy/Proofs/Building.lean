import AccessPolicy.Proofs.Census

/-!
# AccessPolicy.Proofs.Building

The tree of a list of directives has the rules of the list.

Directives are *admissible* if their paths can be split and there is room for their scopes.
A list of directives that is not admissible has a *defect*: a first directive that cannot be
applied behind those before it.

1. A builder inserts the rules of the directives before the defect, or of all directives if
   there is none; it keeps what is wrong with the defect, and counts what comes after it.
2. Admissible directives describe a tree iff one of them is for the root.

* `admissible_or_defect` — where the defect is;
* `applyAll_of_admissible`, `applyAll_of_defect` — rule 1;
* `ofDirectives_eq_ok_iff`, `exists_ofDirectives_eq_ok_iff` — rule 2;
* `ruleMap_of_ofDirectives` — the rules of a tree are those of the directives;
* `length_le_of_knows` — no known path is longer than `maxDepth`.
-/

namespace AccessPolicy

/-! ## Defects -/

namespace Directive

/-- The paths of directives can be split, and there is room for their scopes. -/
structure Admissible (case : PathCase) (ds : List Directive) : Prop where
  splits : ∀ d ∈ ds, ∃ cs, Path.components d.path = .ok cs
  fits : Fits case ds

/-- What is wrong with a directive that cannot be applied behind others. -/
inductive Defect (case : PathCase) (before : List Directive) (d : Directive) :
    BuildError → Prop where
  | malformed {source : PathError} (h : Path.components d.path = .error source) :
      Defect case before d (.malformedPath before.length source)
  | noRoom {cs : List String} (h : Path.components d.path = .ok cs)
      (hfull : ¬ Fits case (before ++ [d])) : Defect case before d .noRoom

variable {case : PathCase} {ds before after more : List Directive} {d : Directive}
  {e : BuildError}

theorem admissible_nil (case : PathCase) : Admissible case [] := ⟨nofun, fits_nil case⟩

theorem Admissible.of_append (h : Admissible case (ds ++ more)) : Admissible case ds :=
  ⟨fun d hd => h.splits d (List.mem_append_left _ hd), h.fits.of_append⟩

theorem Defect.not_admissible (h : Defect case before d e) :
    ¬ Admissible case (before ++ [d]) := by
  rintro ⟨hsplits, hfits⟩
  cases h with
  | malformed h =>
      obtain ⟨cs, hcs⟩ := hsplits d (by simp)
      cases h.symm.trans hcs
  | noRoom _ hfull => exact hfull hfits

/-- Behind admissible directives, another one is admissible or a defect. -/
theorem Admissible.concat_or_defect (h : Admissible case ds) (d : Directive) :
    Admissible case (ds ++ [d]) ∨ ∃ e, Defect case ds d e := by
  cases hd : Path.components d.path with
  | error source => exact .inr ⟨_, .malformed hd⟩
  | ok cs =>
      by_cases hfits : Fits case (ds ++ [d])
      · refine .inl ⟨fun e he => ?_, hfits⟩
        rcases List.mem_append.1 he with he | he
        · exact h.splits e he
        · obtain rfl := List.mem_singleton.1 he
          exact ⟨cs, hd⟩
      · exact .inr ⟨_, .noRoom hd hfits⟩

/-- Directives are admissible, or the first of them that cannot be applied is a defect. -/
theorem admissible_or_defect (case : PathCase) (ds : List Directive) :
    Admissible case ds ∨ ∃ before d after e,
      ds = before ++ d :: after ∧ Admissible case before ∧ Defect case before d e := by
  induction ds using List.reverseRecOn with
  | nil => exact .inl (admissible_nil case)
  | append_singleton ds d ih =>
      rcases ih with hds | ⟨before, d', after, e, rfl, hbefore, hd'⟩
      · rcases hds.concat_or_defect d with hmore | ⟨e, hd⟩
        · exact .inl hmore
        · exact .inr ⟨ds, d, [], e, rfl, hds, hd⟩
      · exact .inr ⟨before, d', after ++ [d], e, by simp, hbefore, hd'⟩

instance (case : PathCase) (ds : List Directive) : Decidable (Admissible case ds) :=
  decidable_of_iff
    ((∀ d ∈ ds, (Path.components d.path).toOption.isSome = true) ∧ Fits case ds) <| by
    have hsplit (d : Directive) : (Path.components d.path).toOption.isSome = true ↔
        ∃ cs, Path.components d.path = .ok cs := by
      cases Path.components d.path <;> simp [Except.toOption]
    simp only [hsplit]
    exact ⟨fun h => ⟨h.1, h.2⟩, fun h => ⟨h.splits, h.fits⟩⟩

/-- The directives before the defect: the longest beginning that is admissible. -/
def accepted (case : PathCase) (ds : List Directive) : List Directive :=
  (ds.inits.reverse.find? (Admissible case ·)).getD []

theorem accepted_concat (case : PathCase) (ds : List Directive) (d : Directive) :
    accepted case (ds ++ [d]) =
      if Admissible case (ds ++ [d]) then ds ++ [d] else accepted case ds := by
  by_cases h : Admissible case (ds ++ [d]) <;> simp [accepted, List.inits_append, h]

theorem accepted_of_admissible (h : Admissible case ds) : accepted case ds = ds := by
  cases ds using List.reverseRecOn with
  | nil => simp [accepted, h]
  | append_singleton ds d => rw [accepted_concat, if_pos h]

theorem accepted_of_defect (hbefore : Admissible case before) (hd : Defect case before d e) :
    accepted case (before ++ d :: after) = before := by
  induction after using List.reverseRecOn with
  | nil => rw [accepted_concat, if_neg hd.not_admissible, accepted_of_admissible hbefore]
  | append_singleton after d' ih =>
      have hsame : before ++ d :: (after ++ [d']) = (before ++ d :: after) ++ [d'] := by simp
      rw [hsame, accepted_concat, ih, if_neg]
      intro h
      rw [← hsame, List.append_cons] at h
      exact hd.not_admissible h.of_append

theorem admissible_accepted (case : PathCase) (ds : List Directive) :
    Admissible case (accepted case ds) := by
  rcases admissible_or_defect case ds with h | ⟨before, d, after, e, rfl, hbefore, hd⟩
  · rwa [accepted_of_admissible h]
  · rwa [accepted_of_defect hbefore hd]

end Directive

/-! ## Builders -/

namespace Builder

open Directive

variable {case : PathCase} {ds before after : List Directive} {d : Directive} {e : BuildError}

theorem applyAll_append (b : Builder) (ds more : List Directive) :
    b.applyAll (ds ++ more) = (b.applyAll ds).applyAll more :=
  List.foldl_append

/-- After an error, directives are only counted. -/
theorem applyAll_of_error {b : Builder} (hb : b.error.isSome = true) (ds : List Directive) :
    b.applyAll ds = { b with applied := b.applied + ds.length } := by
  induction ds generalizing b with
  | nil => rfl
  | cons d ds ih =>
      have hd : b.apply d = { b with applied := b.applied + 1 } := if_pos hb
      have hds := ih (b := b.apply d) (by rw [hd]; exact hb)
      rw [applyAll, List.foldl_cons, ← applyAll, hds, hd, List.length_cons]
      simp only [Nat.add_assoc, Nat.add_comm 1]

/-- The rules of admissible directives are inserted. -/
theorem applyAll_of_admissible (h : Admissible case ds) :
    (empty case).applyAll ds = ⟨case, ds.length, Scope.blank.insertAll case ds, none⟩ := by
  induction ds using List.reverseRecOn with
  | nil => rfl
  | append_singleton ds d ih =>
      obtain ⟨cs, hd⟩ := h.splits d (by simp)
      have hinsert : Scope.blank.insertAll case (ds ++ [d]) =
          (Scope.blank.insertAll case ds).insert case d.rule cs :=
        Scope.insertAll_concat ds hd .blank
      have hroom := (fits_iff h.splits).1 h.fits
      rw [hinsert] at hroom
      rw [applyAll_append, ih h.of_append, hinsert, List.length_append]
      simp [applyAll, apply, hd, hroom]

/-- A defect is kept, and changes nothing else. -/
theorem apply_of_defect (hbefore : Admissible case before) (hd : Defect case before d e) :
    apply ⟨case, before.length, Scope.blank.insertAll case before, none⟩ d =
      ⟨case, before.length + 1, Scope.blank.insertAll case before, some e⟩ := by
  cases hd with
  | malformed hd => simp [apply, hd]
  | @noRoom cs hd hfull =>
      have hsplits : ∀ d' ∈ before ++ [d], ∃ cs, Path.components d'.path = .ok cs :=
        List.forall_mem_append.2 ⟨hbefore.splits, List.forall_mem_singleton.2 ⟨cs, hd⟩⟩
      rw [fits_iff hsplits, Scope.insertAll_concat before hd] at hfull
      simp [apply, hd, hfull]

/-- The rules of the directives before a defect are inserted; the others are only counted. -/
theorem applyAll_of_defect (hbefore : Admissible case before) (hd : Defect case before d e) :
    (empty case).applyAll (before ++ d :: after) =
      ⟨case, (before ++ d :: after).length, Scope.blank.insertAll case before, some e⟩ := by
  rw [applyAll_append, applyAll_of_admissible hbefore, applyAll, List.foldl_cons, ← applyAll,
    apply_of_defect hbefore hd, applyAll_of_error rfl]
  simp only [List.length_append, List.length_cons, Nat.add_assoc, Nat.add_comm 1]

end Builder

/-! ## Trees -/

namespace ScopeTree

open Directive

variable {case : PathCase} {ds before after : List Directive} {d : Directive} {e : BuildError}
  {tree : ScopeTree}

/-- Because of a defect, there is no tree. -/
theorem ofDirectives_of_defect (hbefore : Admissible case before) (hd : Defect case before d e) :
    ofDirectives case (before ++ d :: after) = .error e := by
  rw [ofDirectives, Builder.applyAll_of_defect hbefore hd]
  rfl

/-- Admissible directives describe a tree if they give the root a rule. -/
theorem ofDirectives_of_admissible (h : Admissible case ds) :
    ofDirectives case ds =
      match (Scope.blank.insertAll case ds).rule with
      | none => .error .missingRootRule
      | some rule => .ok ⟨case, rule, (Scope.blank.insertAll case ds).below⟩ := by
  rw [ofDirectives, Builder.applyAll_of_admissible h, Builder.build]
  cases (Scope.blank.insertAll case ds).rule <;> rfl

/-- The tree of directives has the scopes in which their rules were inserted. -/
theorem ofDirectives_eq_ok_iff : ofDirectives case ds = .ok tree ↔
    Admissible case ds ∧ tree.case = case ∧ tree.root = Scope.blank.insertAll case ds := by
  rcases admissible_or_defect case ds with h | ⟨before, d, after, e, rfl, hbefore, hd⟩
  · rw [ofDirectives_of_admissible h, and_iff_right h]
    constructor
    · intro htree
      split at htree
      · cases htree
      · rename_i rule hrule
        obtain rfl := Except.ok.inj htree
        exact ⟨rfl, by rw [root, ← hrule]⟩
    · rintro ⟨rfl, hroot⟩
      rw [← hroot]
      rfl
  · rw [ofDirectives_of_defect hbefore hd]
    refine iff_of_false nofun fun htree => ?_
    have hadmissible := htree.1
    rw [List.append_cons] at hadmissible
    exact hd.not_admissible hadmissible.of_append

theorem holds_of_ofDirectives (h : ofDirectives case ds = .ok tree) : tree.root.Holds case ds := by
  obtain ⟨hadmissible, -, hroot⟩ := ofDirectives_eq_ok_iff.1 h
  rw [hroot]
  exact Scope.holds_insertAll case ds hadmissible.splits

/-- The root has a rule iff a directive is for it. -/
theorem isSome_inForce?_nil_iff (case : PathCase) :
    (inForce? case ds []).isSome = true ↔ ∃ d ∈ ds, Path.components d.path = .ok [] := by
  simp only [inForce?_isSome_iff, keys?_eq_some_nil_iff]

/-- Admissible directives describe no tree iff none of them is for the root. -/
theorem ofDirectives_eq_missingRootRule_iff (h : Admissible case ds) :
    ofDirectives case ds = .error .missingRootRule ↔
      ∀ d ∈ ds, Path.components d.path ≠ .ok [] := by
  have hrule : (Scope.blank.insertAll case ds).rule = inForce? case ds [] :=
    (Scope.holds_insertAll case ds h.splits).ruleAt? []
  have hroot := @isSome_inForce?_nil_iff ds case
  rw [ofDirectives_of_admissible h, hrule]
  cases hforce : inForce? case ds [] with
  | none => simpa [hforce] using hroot
  | some rule => simpa [hforce] using hroot

/-- Why directives describe no tree: one of them is a defect, or else the root has no rule. -/
theorem cases_of_ofDirectives_eq_error (h : ofDirectives case ds = .error e) :
    (e = .missingRootRule ∧ Admissible case ds ∧ ∀ d ∈ ds, Path.components d.path ≠ .ok []) ∨
      ∃ before d after, ds = before ++ d :: after ∧ Admissible case before ∧
        Defect case before d e := by
  rcases admissible_or_defect case ds with hds | ⟨before, d, after, e', rfl, hbefore, hd⟩
  · have hmissing : e = .missingRootRule := by
      rw [ofDirectives_of_admissible hds] at h
      split at h <;> cases h
      rfl
    rw [hmissing] at h
    exact .inl ⟨hmissing, hds, (ofDirectives_eq_missingRootRule_iff hds).1 h⟩
  · obtain rfl := Except.error.inj ((ofDirectives_of_defect hbefore hd).symm.trans h)
    exact .inr ⟨before, d, after, rfl, hbefore, hd⟩

/-- **Building**: directives describe a tree iff every path can be split, one of them is for
the root, and there is room for their scopes. -/
theorem exists_ofDirectives_eq_ok_iff :
    (∃ tree, ofDirectives case ds = .ok tree) ↔
      (∀ d ∈ ds, ∃ cs, Path.components d.path = .ok cs) ∧
        (∃ d ∈ ds, Path.components d.path = .ok []) ∧ Fits case ds := by
  constructor
  · rintro ⟨tree, h⟩
    have hadmissible := (ofDirectives_eq_ok_iff.1 h).1
    refine ⟨hadmissible.splits, (isSome_inForce?_nil_iff case).1 ?_, hadmissible.fits⟩
    rw [← (holds_of_ofDirectives h).ruleAt? []]
    rfl
  · rintro ⟨hsplits, hroot, hfits⟩
    have hadmissible : Admissible case ds := ⟨hsplits, hfits⟩
    obtain ⟨rule, hrule⟩ := Option.isSome_iff_exists.1
      ((isSome_inForce?_nil_iff case).2 hroot)
    have hinsert : (Scope.blank.insertAll case ds).rule = some rule :=
      ((Scope.holds_insertAll case ds hsplits).ruleAt? []).trans hrule
    exact ⟨_, by rw [ofDirectives_of_admissible hadmissible, hinsert]⟩

/-- The rules of a tree by path. -/
def ruleMap (tree : ScopeTree) : RuleMap where
  rule? path := tree.root.ruleAt? (path.map tree.case.key)
  knows path := (tree.root.at? (path.map tree.case.key)).isSome

/-- The rules of a tree that was built are those of the directives. -/
theorem ruleMap_of_ofDirectives (h : ofDirectives case ds = .ok tree) :
    tree.ruleMap = RuleMap.ofDirectives case ds := by
  have hholds := holds_of_ofDirectives h
  obtain ⟨-, rfl, -⟩ := ofDirectives_eq_ok_iff.1 h
  obtain ⟨-, ⟨d, hd, hcs⟩, -⟩ := exists_ofDirectives_eq_ok_iff.1 ⟨tree, h⟩
  -- The directive for the root leads through no keys.
  have hleads {keys : List String} (hkeys : keys = []) : Leads tree.case ds keys :=
    ⟨d, hd, [], keys?_eq_some_nil_iff.2 hcs, hkeys ▸ List.prefix_rfl⟩
  rw [ruleMap, RuleMap.ofDirectives, RuleMap.mk.injEq]
  refine ⟨funext fun path => hholds.ruleAt? _, funext fun path => ?_⟩
  rw [Bool.eq_iff_iff, hholds.isSome_at?, or_iff_right_of_imp hleads]
  exact RuleMap.knows_ofDirectives_iff.symm

/-- No known path of directives is longer than a path can be. -/
theorem length_le_of_knows {path : List String}
    (h : (RuleMap.ofDirectives case ds).knows path = true) : path.length ≤ maxDepth := by
  have hle := length_le_of_leads (RuleMap.knows_ofDirectives_iff.1 h)
  rwa [List.length_map] at hle

/-- A tree has as many scopes as its directives lead through different keys. -/
theorem nodeCount_eq (h : ofDirectives case ds = .ok tree) :
    tree.nodeCount = (keyPrefixes case ds).dedup.length :=
  (holds_of_ofDirectives h).size_eq

end ScopeTree

end AccessPolicy
