import AccessPolicy.Proofs.Determinacy

/-!
# AccessPolicy.Proofs.Defects

What is reported of directives that describe no tree.

Directives may be brought one by one or in lists; all that matters is the list of all of
them.  If there is room for their scopes, the first one with a malformed path is the defect
that is reported:

1. it is reported with its position among all directives and the fault in its path;
2. directives after it are counted and change nothing, whatever is wrong with them;
3. a root without a rule is reported only where no path is malformed.

* `FirstMalformed.exists_defect` — where this defect is;
* `build_eq_malformedPath_iff` — rules 1 and 2;
* `build_reports_first_defect` — all of this for every way to bring the directives.
-/

namespace AccessPolicy

namespace Directive

/-- The first malformed path of directives is that of the directive at `index`. -/
def FirstMalformed (ds : List Directive) (index : Nat) (source : PathError) : Prop :=
  ∃ before d after, ds = before ++ d :: after ∧ before.length = index ∧
    (∀ e ∈ before, ∃ cs, Path.components e.path = .ok cs) ∧ Path.components d.path = .error source

variable {ds : List Directive} {index : Nat} {source : PathError}

/-- What is appended does not come first. -/
theorem FirstMalformed.append (h : FirstMalformed ds index source) (more : List Directive) :
    FirstMalformed (ds ++ more) index source := by
  obtain ⟨before, d, after, rfl, hindex, hbefore, hd⟩ := h
  exact ⟨before, d, after ++ more, by simp, hindex, hbefore, hd⟩

theorem FirstMalformed.index_lt (h : FirstMalformed ds index source) : index < ds.length := by
  obtain ⟨before, d, after, rfl, rfl, -, -⟩ := h
  simp

/-- Where there is room for the scopes of those before it, the first malformed path is the
defect. -/
theorem FirstMalformed.exists_defect {case : PathCase} (h : FirstMalformed ds index source)
    (hfits : Fits case (ds.take index)) :
    ∃ before d after, ds = before ++ d :: after ∧ Admissible case before ∧
      Defect case before d (.malformedPath index source) := by
  obtain ⟨before, d, after, rfl, rfl, hbefore, hd⟩ := h
  rw [List.take_left] at hfits
  exact ⟨before, d, after, rfl, ⟨hbefore, hfits⟩, .malformed hd⟩

/-- Every path can be split, or one of them is the first that cannot. -/
theorem splits_or_firstMalformed (ds : List Directive) :
    (∀ d ∈ ds, ∃ cs, Path.components d.path = .ok cs) ∨
      ∃ index source, FirstMalformed ds index source := by
  induction ds with
  | nil => exact .inl nofun
  | cons d ds ih =>
      cases hd : Path.components d.path with
      | error source => exact .inr ⟨0, source, [], d, ds, rfl, rfl, nofun, hd⟩
      | ok cs =>
          rcases ih with hsplit | ⟨index, source, before, e, after, rfl, hindex, hbefore, he⟩
          · exact .inl (List.forall_mem_cons.2 ⟨⟨cs, hd⟩, hsplit⟩)
          · exact .inr ⟨index + 1, source, d :: before, e, after, rfl, by simp [hindex],
              List.forall_mem_cons.2 ⟨⟨cs, hd⟩, hbefore⟩, he⟩

end Directive

namespace Builder

variable {ds : List Directive} {index : Nat} {source : PathError}

/-! ## Bringing directives -/

/-- A way to bring directives to a builder. -/
inductive Addition where
  | scope (path : String) (mask policy : PolicyBits)
  | exact (path : String) (mask policy : PolicyBits)
  | directive (d : Directive)
  | directives (ds : List Directive)

/-- The directives that are brought. -/
def Addition.brought : Addition → List Directive
  | .scope path mask policy => [⟨path, ⟨mask, policy, .scope⟩⟩]
  | .exact path mask policy => [⟨path, ⟨mask, policy, .exact⟩⟩]
  | .directive d => [d]
  | .directives ds => ds

/-- Bring directives. -/
def add (b : Builder) : Addition → Builder
  | .scope path mask policy => b.addScope path mask policy
  | .exact path mask policy => b.addPath path mask policy
  | .directive d => b.apply d
  | .directives ds => b.applyAll ds

/-- Bring directives in several ways, one after the other. -/
def addAll (b : Builder) (additions : List Addition) : Builder := additions.foldl add b

theorem add_eq_applyAll (b : Builder) (a : Addition) : b.add a = b.applyAll a.brought := by
  cases a <;> rfl

/-- It does not matter in which ways directives are brought. -/
theorem addAll_eq_applyAll (b : Builder) (additions : List Addition) :
    b.addAll additions = b.applyAll (additions.flatMap Addition.brought) := by
  induction additions generalizing b with
  | nil => rfl
  | cons a additions ih =>
      rw [List.flatMap_cons, applyAll_append, ← add_eq_applyAll, ← ih]
      rfl

/-! ## What is reported -/

/-- A malformed path is reported iff it is the first one and there is room for the scopes of the
directives before it. -/
theorem build_eq_malformedPath_iff (case : PathCase) :
    ((empty case).applyAll ds).build = .error (.malformedPath index source) ↔
      Directive.FirstMalformed ds index source ∧ Directive.Fits case (ds.take index) := by
  constructor
  · intro hbuild
    rcases ScopeTree.cases_of_ofDirectives_eq_error hbuild with
      ⟨heq, -⟩ | ⟨before, d, after, rfl, hbefore, hd⟩
    · cases heq
    · cases hd with
      | malformed hd =>
          refine ⟨⟨before, d, after, rfl, rfl, hbefore.splits, hd⟩, ?_⟩
          rw [List.take_left]
          exact hbefore.fits
  · rintro ⟨hfirst, hfits⟩
    obtain ⟨before, d, after, rfl, hbefore, hd⟩ := hfirst.exists_defect hfits
    exact ScopeTree.ofDirectives_of_defect hbefore hd

/-- Without a defect there is a tree, and the last directive for the root is in force there. -/
theorem build_of_last_root {case : PathCase} {before after : List Directive} {d : Directive}
    (h : Directive.Admissible case (before ++ d :: after)) (hd : Path.components d.path = .ok [])
    (hlast : ∀ e ∈ after, Path.components e.path ≠ .ok []) :
    ∃ tree, ((empty case).applyAll (before ++ d :: after)).build = .ok tree ∧
      tree.case = case ∧ tree.root.rule = some d.rule := by
  obtain ⟨tree, htree⟩ :=
    ScopeTree.exists_ofDirectives_eq_ok_iff.2 ⟨h.splits, ⟨d, by simp, hd⟩, h.fits⟩
  refine ⟨tree, htree, (ScopeTree.ofDirectives_eq_ok_iff.1 htree).2.1, ?_⟩
  have hforce : Directive.inForce? case (before ++ d :: after) [] = some d.rule :=
    Directive.inForce?_of_no_other before (Directive.keys?_eq_some_nil_iff.2 hd) rfl
      fun e he hkeys => absurd (Directive.keys?_eq_some_nil_iff.1 hkeys) (hlast e he)
  exact ((ScopeTree.holds_of_ofDirectives htree).ruleAt? []).trans hforce

/-- **Defects**: bring directives to a new builder in any ways.  A malformed path is reported
iff it is the first one and there is room for the scopes of the directives before it.  It is
reported with its position and fault, and nothing that is brought later replaces it; there is a
first one as soon as one of the paths is malformed.  If no path is malformed and there is room
for all scopes, a missing root rule is reported iff no directive is for the root; and the last
directive that is for the root gives its rule to the root of a tree. -/
theorem build_reports_first_defect (case : PathCase) (additions : List Addition) :
    let ds := additions.flatMap Addition.brought
    let built := ((empty case).addAll additions).build
    (∀ index source, built = .error (.malformedPath index source) ↔
      Directive.FirstMalformed ds index source ∧ Directive.Fits case (ds.take index)) ∧
    (∀ index source, Directive.FirstMalformed ds index source →
      Directive.Fits case (ds.take index) → ∀ more,
        ((empty case).addAll (additions ++ more)).build = .error (.malformedPath index source)) ∧
    ((∃ d ∈ ds, ∀ cs, Path.components d.path ≠ .ok cs) →
      ∃ index source, Directive.FirstMalformed ds index source) ∧
    ((∀ d ∈ ds, ∃ cs, Path.components d.path = .ok cs) → Directive.Fits case ds →
      (built = .error .missingRootRule ↔ ∀ d ∈ ds, Path.components d.path ≠ .ok []) ∧
      ∀ before d after, ds = before ++ d :: after → Path.components d.path = .ok [] →
        (∀ e ∈ after, Path.components e.path ≠ .ok []) →
          ∃ tree, built = .ok tree ∧ tree.case = case ∧ tree.root.rule = some d.rule) := by
  simp only [addAll_eq_applyAll, List.flatMap_append]
  generalize additions.flatMap Addition.brought = ds
  refine ⟨fun index source => build_eq_malformedPath_iff case,
    fun index source hfirst hfits more => ?_, ?_, fun hsplits hfits => ?_⟩
  · refine (build_eq_malformedPath_iff case).2 ⟨hfirst.append _, ?_⟩
    rwa [List.take_append_of_le_length hfirst.index_lt.le]
  · rintro ⟨d, hd, hnot⟩
    refine (Directive.splits_or_firstMalformed ds).resolve_left fun hsplits => ?_
    obtain ⟨cs, hcs⟩ := hsplits d hd
    exact hnot cs hcs
  · have hadmissible : Directive.Admissible case ds := ⟨hsplits, hfits⟩
    refine ⟨ScopeTree.ofDirectives_eq_missingRootRule_iff hadmissible, ?_⟩
    rintro before d after rfl hd hlast
    exact build_of_last_root hadmissible hd hlast

/-- Additions with two malformed paths and, at first, no rule for the root. -/
def sampleAdditions : List Addition :=
  [.scope "/src" .maskNone .allowRead,
    .directives [⟨"/src/../etc", ⟨.maskNone, .allowRead, .scope⟩⟩, ⟨"etc", ⟨.maskAll, ∅, .exact⟩⟩]]

/-- Of the sample, the first malformed path is reported, also when a rule for the root follows.
Two rules for the root give it the second. -/
theorem build_reports_first_defect_sample :
    ((empty .sensitive).addAll (sampleAdditions ++ [.scope "/" .maskNone ∅])).build =
        .error (.malformedPath 1 (.nonCanonical "/src/../etc" "..")) ∧
      ((empty .sensitive).addAll (sampleAdditions.take 1)).build = .error .missingRootRule ∧
      ∃ tree, ((empty .sensitive).addAll [.exact "/" .maskNone .deny,
          .directive ⟨"//", ⟨.maskAll, .allowRead, .scope⟩⟩,
          .scope "/src" .maskNone .allowWrite]).build = .ok tree ∧
        tree.root.rule = some ⟨.maskAll, .allowRead, .scope⟩ := by
  have hfirst : Directive.FirstMalformed (sampleAdditions.flatMap Addition.brought) 1
      (.nonCanonical "/src/../etc" "..") :=
    ⟨[_], _, [_], rfl, rfl, List.forall_mem_singleton.2 ⟨["src"], rfl⟩, rfl⟩
  have hmore := (build_reports_first_defect .sensitive sampleAdditions).2.1 _ _ hfirst (by decide)
  have hmissing := ((build_reports_first_defect .sensitive (sampleAdditions.take 1)).2.2.2
    (List.forall_mem_singleton.2 ⟨["src"], rfl⟩) (by decide)).1.2
    (List.forall_mem_singleton.2 nofun)
  obtain ⟨tree, htree, -, hrule⟩ := ((build_reports_first_defect .sensitive
      [.exact "/" .maskNone .deny, .directive ⟨"//", ⟨.maskAll, .allowRead, .scope⟩⟩,
        .scope "/src" .maskNone .allowWrite]).2.2.2
    (List.forall_mem_cons.2 ⟨⟨[], rfl⟩, List.forall_mem_cons.2 ⟨⟨[], rfl⟩,
      List.forall_mem_singleton.2 ⟨["src"], rfl⟩⟩⟩) (by decide)).2 [_] _ [_] rfl rfl
    (List.forall_mem_singleton.2 nofun)
  exact ⟨hmore _, hmissing, tree, htree, hrule⟩

end Builder

end AccessPolicy
