import AccessPolicy.Proofs.CaseKeys
import AccessPolicy.Proofs.Determinacy
import AccessPolicy.Proofs.Splitting

/-!
# AccessPolicy.Proofs.NormalForms

Keys are normal forms: the key of a key is that key again.

Where a sigma stands decides on its form, a form may be longer than the component, and some
capitals have no other form, so that a key may still look as if it had to be lowercased.
None of this matters, because of what a lowercase form consists of:

1. every character in it is `Settled`, that is, kept wherever it stands;
2. the characters by which texts are cut into components stay where they are, and none of
   them is added.

From 1 it follows that trees see no difference between components and their keys, and
from 2 that texts of paths are cut into as many parts.

* `lowercase_lowercase`, `key_key` — rule 1; `apart_lowercaseShifts` is what it says of the
  table;
* `isComponent_key_iff` — rule 2, `components_slashed_key` — the same for whole texts;
* `Directive.sight` — what building takes from a directive, and
  `ofDirectives_eq_error_of_sights`, `ofDirectives_eq_ok_of_sights` — that it takes no more;
* `keys_are_normal_forms` — what this means for trees.
-/

namespace AccessPolicy

namespace Text

/-! ## Settled characters -/

/-- The lowercase forms of a run of letters. -/
def Shift.image (s : Shift) : Run :=
  ⟨s.target, s.target + (s.run.last - s.run.first), s.run.step⟩

theorem Shift.holds_image {s : Shift} {n : Nat} (h : s.run.holds n = true) :
    s.image.holds (s.target + (n - s.run.first)) = true := by
  simp only [Run.holds, Bool.and_eq_true, decide_eq_true_eq, beq_iff_eq] at h
  obtain ⟨⟨-, hlast⟩, hstep⟩ := h
  simp only [Run.holds, Bool.and_eq_true, decide_eq_true_eq, beq_iff_eq]
  dsimp only [image]
  exact ⟨⟨Nat.le_add_right _ _, by omega⟩, by rwa [Nat.add_sub_cancel_left]⟩

/-- Whether two runs have no code point in common: mostly, one ends before the other
begins. -/
def Run.apart (r t : Run) : Bool :=
  decide (r.last < t.first) || decide (t.last < r.first) || r.points.all (!t.holds ·)

theorem Run.holds_eq_false_of_apart {r t : Run} {n : Nat} (h : r.apart t = true)
    (hr : r.holds n = true) : t.holds n = false := by
  rw [apart, Bool.or_eq_true, Bool.or_eq_true, decide_eq_true_eq, decide_eq_true_eq] at h
  rcases h with hends | hpoints
  · refine Bool.eq_false_iff.2 fun ht => ?_
    simp only [holds, Bool.and_eq_true, decide_eq_true_eq] at hr ht
    omega
  · simpa using List.all_eq_true.1 hpoints n (mem_points hr)

/-- No lowercase form of a letter has another lowercase form in turn, and none is the
dotted capital I. -/
theorem apart_lowercaseShifts : (lowercaseShifts.all fun s =>
    (⟨0x130, 0x130, 1⟩ :: lowercaseShifts.map Shift.run).all s.image.apart) = true := by
  decide +kernel

/-- A character that lowercasing keeps, wherever it stands. -/
def Settled (c : Char) : Prop := c ≠ '\u03A3' ∧ lowerChar c = [c]

instance (c : Char) : Decidable (Settled c) :=
  inferInstanceAs (Decidable (c ≠ '\u03A3' ∧ lowerChar c = [c]))

theorem lowerChar_eq_self {c : Char} (hdotted : c ≠ '\u0130')
    (h : ∀ s ∈ lowercaseShifts, s.run.holds c.toNat = false) : lowerChar c = [c] := by
  have hnone : lowercaseShifts.find? (fun s => s.run.holds c.toNat) = none :=
    List.find?_eq_none.2 fun s hs => by simp [h s hs]
  rw [lowerChar, if_neg hdotted, hnone]

/-- The form of a letter is settled. -/
theorem settled_target {s : Shift} (hs : s ∈ lowercaseShifts) {n : Nat}
    (h : s.run.holds n = true) : Settled (Char.ofNat (s.target + (n - s.run.first))) := by
  have hapart := List.all_eq_true.1 (List.all_eq_true.1 apart_lowercaseShifts s hs)
  have hout (r : Run) (hr : r ∈ (⟨0x130, 0x130, 1⟩ :: lowercaseShifts.map Shift.run : List Run)) :
      r.holds (Char.ofNat (s.target + (n - s.run.first))).toNat = false := by
    rw [toNat_ofNat_target hs h]
    exact Run.holds_eq_false_of_apart (hapart r hr) (Shift.holds_image h)
  obtain ⟨hdotted, hshifts⟩ := List.forall_mem_cons.1 hout
  have hsigma : lowercaseShifts.any (·.run.holds 0x3A3) = true := by decide +kernel
  refine ⟨fun hc => ?_, lowerChar_eq_self (fun hc => ?_) (List.forall_mem_map.1 hshifts)⟩
  · obtain ⟨t, ht, hholds⟩ := List.any_eq_true.1 hsigma
    exact absurd hholds (by simpa [hc] using hshifts t.run (List.mem_map_of_mem ht))
  · rw [hc] at hdotted
    exact absurd hdotted (by decide)

/-- Whatever a character is lowercased to is settled. -/
theorem settled_of_mem_lowerChar {c d : Char} (hc : c ≠ '\u03A3') (hd : d ∈ lowerChar c) :
    Settled d := by
  by_cases hdotted : c = '\u0130'
  · have hforms : (lowerChar '\u0130').all (fun d => decide (Settled d)) = true := by
      decide +kernel
    exact of_decide_eq_true (List.all_eq_true.1 hforms d (hdotted ▸ hd))
  have hform := hd
  rw [lowerChar, if_neg hdotted] at hform
  split at hform
  · rename_i s hs
    rw [List.mem_singleton.1 hform]
    exact settled_target (List.mem_of_find?_eq_some hs) (by simpa using List.find?_some hs)
  · rename_i hnone
    rw [List.mem_singleton.1 hform]
    refine ⟨hc, lowerChar_eq_self hdotted fun s hs => ?_⟩
    simpa using List.find?_eq_none.1 hnone s hs

theorem settled_of_mem_lowerFrom {before cs : List Char} {d : Char}
    (hd : d ∈ lowerFrom before cs) : Settled d := by
  have hsigmas : Settled '\u03C2' ∧ Settled '\u03C3' := by decide +kernel
  induction cs generalizing before with
  | nil => simp [lowerFrom] at hd
  | cons c cs ih =>
      rw [lowerFrom, List.mem_append] at hd
      refine hd.elim (fun hform => ?_) ih
      split at hform
      · rw [List.mem_singleton.1 hform, lowerSigma]
        split
        · exact hsigmas.1
        · exact hsigmas.2
      · rename_i hsigma
        exact settled_of_mem_lowerChar hsigma hform

theorem lowerFrom_of_settled {cs : List Char} (h : ∀ c ∈ cs, Settled c) (before : List Char) :
    lowerFrom before cs = cs := by
  induction cs generalizing before with
  | nil => rfl
  | cons c cs ih =>
      obtain ⟨⟨hsigma, hself⟩, hcs⟩ := List.forall_mem_cons.1 h
      rw [lowerFrom, if_neg hsigma, hself, ih hcs, List.singleton_append]

/-- A lowercase form is its own lowercase form. -/
theorem lowercase_lowercase (s : String) : lowercase (lowercase s) = lowercase s := by
  have hsettled (d : Char) : d ∈ (lowercase s).toList → Settled d := by
    rw [lowercase, String.toList_ofList]
    exact settled_of_mem_lowerFrom
  rw [lowercase, lowerFrom_of_settled hsettled, String.ofList_toList]

/-- A text whose lowercase form has no small letter has not been changed. -/
theorem lowerFrom_eq_self_of_low {before cs : List Char}
    (h : ∀ d ∈ lowerFrom before cs, d.toNat < 0x61) : lowerFrom before cs = cs := by
  induction cs generalizing before with
  | nil => rfl
  | cons c cs ih =>
      rw [lowerFrom] at h ⊢
      obtain ⟨hform, hrest⟩ := List.forall_mem_append.1 h
      have hself : (if c = '\u03A3' then [lowerSigma before cs] else lowerChar c) = [c] := by
        by_cases hsigma : c = '\u03A3'
        · have hlow := hform (lowerSigma before cs) (by simp [hsigma])
          unfold lowerSigma at hlow
          split at hlow <;> exact absurd hlow (by decide)
        · rw [if_neg hsigma] at hform ⊢
          have hdotted : c ≠ '\u0130' := by
            rintro rfl
            exact absurd (hform 'i' (by decide)) (by decide)
          obtain ⟨d, hd⟩ := exists_lowerChar hdotted
          have hlow : d.toNat < 0x61 := hform d (by simp [hd])
          rw [hd, (le_of_mem_lowerChar (by simp [hd] : d ∈ lowerChar c)).resolve_right (by omega)]
      rw [hself, ih hrest, List.singleton_append]

end Text

namespace PathCase

/-- **Idempotence**: a key is its own key. -/
theorem key_key (case : PathCase) (c : String) : case.key (case.key c) = case.key c := by
  by_cases hfolds : case.folds c = true
  · have hkey : case.key c = Text.lowercase c := if_pos hfolds
    rw [hkey, key, Text.lowercase_lowercase, ite_self]
  · have hkey : case.key c = c := if_neg hfolds
    rw [hkey, hkey]

/-- A key without small letters is the component itself. -/
theorem key_eq_self_of_low {case : PathCase} {c : String}
    (h : ∀ d ∈ (case.key c).toList, d.toNat < 0x61) : case.key c = c := by
  unfold key at h ⊢
  split
  · rename_i hfolds
    rw [if_pos hfolds, Text.lowercase, String.toList_ofList] at h
    rw [Text.lowercase, Text.lowerFrom_eq_self_of_low h, String.ofList_toList]
  · rfl

/-- Such a text is the key of nothing but itself. -/
theorem key_eq_iff {case : PathCase} {c name : String} (hself : case.key name = name)
    (hlow : name.toList.all (·.toNat < 0x61) = true) : case.key c = name ↔ c = name := by
  constructor
  · rintro rfl
    exact (key_eq_self_of_low (by simpa using hlow)).symm
  · rintro rfl
    exact hself

end PathCase

/-! ## Components -/

namespace Path

/-- A text that can stand between separators. -/
def Plain (name : String) : Prop := ∀ c ∈ name.toList, isSeparator c = false

instance (name : String) : Decidable (Plain name) :=
  List.decidableBAll (fun c => isSeparator c = false) name.toList

theorem plain_iff {name : String} : Plain name ↔ '/' ∉ name.toList ∧ '\\' ∉ name.toList := by
  constructor
  · intro h
    exact ⟨fun hmem => absurd (h _ hmem) (by decide), fun hmem => absurd (h _ hmem) (by decide)⟩
  · rintro ⟨hslash, hbackslash⟩ c hc
    have hne : c ≠ '/' ∧ c ≠ '\\' := ⟨fun he => hslash (he ▸ hc), fun he => hbackslash (he ▸ hc)⟩
    simp [isSeparator, hne]

theorem isComponent_iff {name : String} : IsComponent name ↔
    name ≠ "" ∧ Plain name ∧ '\x00' ∉ name.toList ∧ ¬ Dots name := by
  constructor
  · rintro ⟨hfull, hplain, hdots⟩
    exact ⟨hfull, plain_iff.2 ⟨fun h => (hplain _ h).1 rfl, fun h => (hplain _ h).2.1 rfl⟩,
      fun h => (hplain _ h).2.2 rfl, hdots⟩
  · rintro ⟨hfull, hplain, hnul, hdots⟩
    obtain ⟨hslash, hbackslash⟩ := plain_iff.1 hplain
    exact ⟨hfull, fun c hc => ⟨fun he => hslash (he ▸ hc), fun he => hbackslash (he ▸ hc),
      fun he => hnul (he ▸ hc)⟩, hdots⟩

end Path

namespace PathCase

variable (case : PathCase) (c : String)

/-- Separators and NUL are in a key iff they are in the component. -/
theorem mem_key_iff_of_special {d : Char} (hd : d ∈ ['/', '\\', '\x00']) :
    d ∈ (case.key c).toList ↔ d ∈ c.toList := by
  have hspecial : ['/', '\\', '\x00'].all
      (fun d => decide (d.toNat < 0x61 ∧ Text.lowerChar d = [d])) = true := by
    decide +kernel
  obtain ⟨hlow, hself⟩ := of_decide_eq_true (List.all_eq_true.1 hspecial d hd)
  exact mem_key_iff hlow hself case c

theorem key_eq_empty_iff : case.key c = "" ↔ c = "" :=
  key_eq_iff (by cases case <;> decide +kernel) (by decide)

theorem dots_key_iff : Path.Dots (case.key c) ↔ Path.Dots c :=
  or_congr (key_eq_iff (by cases case <;> decide +kernel) (by decide))
    (key_eq_iff (by cases case <;> decide +kernel) (by decide))

theorem plain_key_iff : Path.Plain (case.key c) ↔ Path.Plain c := by
  rw [Path.plain_iff, Path.plain_iff, mem_key_iff_of_special _ _ (by simp),
    mem_key_iff_of_special _ _ (by simp)]

/-- The key of a component is one that canonical paths can have iff the component is. -/
theorem isComponent_key_iff : Path.IsComponent (case.key c) ↔ Path.IsComponent c := by
  rw [Path.isComponent_iff, Path.isComponent_iff, ne_eq, key_eq_empty_iff, plain_key_iff,
    mem_key_iff_of_special _ _ (by simp), dots_key_iff]

/-- Dots are their own key. -/
theorem key_of_dots {c : String} (h : Path.Dots c) : case.key c = c := by
  rcases h with rfl | rfl <;> cases case <;> decide +kernel

end PathCase

/-! ## Texts of paths -/

namespace Path

/-- The absolute text in which components are joined by slashes. -/
def slashed (names : List String) : String := "/" ++ String.intercalate "/" names

theorem toList_slashed (names : List String) :
    (slashed names).toList = '/' :: ['/'].intercalate (names.map String.toList) := by
  simp [slashed, String.toList_intercalate]

variable {names : List String}

/-- The components of such a text are those that are joined, without the empty ones. -/
theorem divided_slashed (h : ∀ name ∈ names, Plain name) :
    Divided (slashed names).toList (names.filter (· ≠ "")) := by
  rw [toList_slashed]
  refine Divided.cons_separator rfl ?_
  induction names with
  | nil => exact .nothing (by simp)
  | cons name names ih =>
      obtain ⟨hname, hnames⟩ := List.forall_mem_cons.1 h
      have front {rest : List Char} {others : List String}
          (hend : ∀ c ∈ rest.head?, isSeparator c = true) (hrest : Divided rest others) :
          Divided (name.toList ++ rest) ([name].filter (· ≠ "") ++ others) := by
        by_cases hfull : name = ""
        · simpa [hfull] using hrest
        · have hne : name.toList ≠ [] := fun hnil => hfull (String.toList_eq_nil_iff.1 hnil)
          simpa [hfull] using Divided.front hne hname hend hrest
      cases names with
      | nil =>
          have hnothing : Divided [] [] := .nothing (by simp)
          simpa using front (by simp) hnothing
      | cons other names =>
          have hparts : (name :: other :: names).filter (· ≠ "") =
              [name].filter (· ≠ "") ++ (other :: names).filter (· ≠ "") :=
            List.filter_append [name] (other :: names)
          rw [List.map_cons, List.map_cons, List.intercalate_cons_cons, List.append_assoc, hparts]
          exact front (by simp [isSeparator]) (Divided.cons_separator rfl (ih hnames))

theorem nul_mem_slashed :
    '\x00' ∈ (slashed names).toList ↔ ∃ name ∈ names, '\x00' ∈ name.toList := by
  rw [toList_slashed, List.mem_cons, or_iff_right (by decide)]
  induction names with
  | nil => simp
  | cons name names ih =>
      cases names with
      | nil => simp
      | cons other names =>
          rw [List.map_cons, List.map_cons, List.intercalate_cons_cons, List.mem_append,
            List.mem_append, ← List.map_cons, ih]
          simp

/-- What becomes of such a text. -/
theorem components_slashed (h : ∀ name ∈ names, Plain name) :
    components (slashed names) =
      if ∃ name ∈ names, '\x00' ∈ name.toList then .error (.nul (slashed names))
      else
        match (names.filter (· ≠ "")).find? (Dots ·) with
        | some name => .error (.nonCanonical (slashed names) name)
        | none =>
            if maxDepth < (names.filter (· ≠ "")).length then .error .tooDeep
            else .ok (names.filter (· ≠ "")) := by
  have hchars := toList_slashed names
  have hfull : slashed names ≠ "" := fun hnil => by simp [hnil] at hchars
  have hrooted : Rooted (slashed names) (names.filter (· ≠ "")) :=
    .inl ⟨'/', by simp [hchars], .inl rfl⟩
  refine components_of_rules (divided_slashed h) ?_
  split
  · rename_i hnul
    exact .nul hfull (nul_mem_slashed.2 hnul)
  rename_i hnul
  have hnul : '\x00' ∉ (slashed names).toList := mt nul_mem_slashed.1 hnul
  split
  · rename_i name hfirst
    obtain ⟨hdots, before, after, hnames, hbefore⟩ := List.find?_eq_some_iff_append.1 hfirst
    exact .nonCanonical hfull hnul hrooted hnames (fun x hx => by simpa using hbefore x hx)
      (of_decide_eq_true hdots)
  · rename_i hnone
    have hplain (x : String) (hx : x ∈ names.filter (· ≠ "")) : ¬ Dots x := by
      simpa using List.find?_eq_none.1 hnone x hx
    split
    · rename_i hdeep
      exact .tooDeep hfull hnul hrooted hplain hdeep
    · rename_i hdepth
      exact .taken hfull hnul hrooted hplain (Nat.not_lt.1 hdepth)

end Path

/-- The reason without the text of the path. -/
def PathError.unquoted : PathError → PathError
  | .empty => .empty
  | .relative _ => .relative ""
  | .nonCanonical _ component => .nonCanonical "" component
  | .nul _ => .nul ""
  | .tooDeep => .tooDeep

theorem PathError.eq_tooDeep_of_unquoted {e : PathError} (h : e.unquoted = .tooDeep) :
    e = .tooDeep := by
  cases e <;> cases h
  rfl

/-- The reason without the text of the path. -/
def BuildError.unquoted : BuildError → BuildError
  | .missingRootRule => .missingRootRule
  | .malformedPath index source => .malformedPath index source.unquoted
  | .tooManyNodes max => .tooManyNodes max

namespace Path

variable {names : List String}

/-- Where canonical paths can have the components, only their number can be wrong. -/
theorem eq_tooDeep_of_components_slashed (h : ∀ name ∈ names, IsComponent name) {e : PathError}
    (he : components (slashed names) = .error e) : e = .tooDeep := by
  have hparts (name : String) (hname : name ∈ names) := isComponent_iff.1 (h name hname)
  have hnul : ¬ ∃ name ∈ names, '\x00' ∈ name.toList := by
    rintro ⟨name, hname, hnul⟩
    exact (hparts name hname).2.2.1 hnul
  have hdots : (names.filter (· ≠ "")).find? (Dots ·) = none := by
    refine List.find?_eq_none.2 fun name hname => ?_
    simpa using (hparts name (List.mem_filter.1 hname).1).2.2.2
  rw [components_slashed fun name hname => (hparts name hname).2.1, if_neg hnul, hdots] at he
  dsimp only at he
  split at he <;> cases he
  rfl

/-- Keys in place of components make a text of the keys, which is refused for the same
reason. -/
theorem components_slashed_key (case : PathCase) (h : ∀ name ∈ names, Plain name) :
    (components (slashed (names.map case.key))).mapError PathError.unquoted =
      ((components (slashed names)).map (·.map case.key)).mapError PathError.unquoted := by
  have hkeys : ∀ key ∈ names.map case.key, Plain key :=
    List.forall_mem_map.2 fun name hname => (case.plain_key_iff name).2 (h name hname)
  have hfilter : (names.map case.key).filter (· ≠ "") = (names.filter (· ≠ "")).map case.key := by
    rw [List.filter_map]
    simp only [Function.comp_def, ne_eq, case.key_eq_empty_iff]
  have hnul : (∃ key ∈ names.map case.key, '\x00' ∈ key.toList) ↔
      ∃ name ∈ names, '\x00' ∈ name.toList := by
    simp [case.mem_key_iff_of_special]
  have hdots : ((names.filter (· ≠ "")).map case.key).find? (Dots ·) =
      (names.filter (· ≠ "")).find? (Dots ·) := by
    rw [List.find?_map]
    simp only [Function.comp_def, case.dots_key_iff]
    cases hfirst : (names.filter (· ≠ "")).find? (Dots ·) with
    | none => rfl
    | some name =>
        have hname : Dots name := by simpa using List.find?_some hfirst
        rw [Option.map_some, case.key_of_dots hname]
  rw [components_slashed h, components_slashed hkeys, hfilter, hdots, List.length_map]
  simp only [hnul]
  split
  · rfl
  split
  · rfl
  split <;> rfl

end Path

/-! ## Directives -/

namespace Directive

/-- What building takes from a directive: the keys of its path, or why there are none, and
its rule. -/
def sight (case : PathCase) (d : Directive) : Except PathError (List String) × Rule :=
  (((Path.components d.path).map (·.map case.key)).mapError PathError.unquoted, d.rule)

variable {case : PathCase} {ds ds' : List Directive} {d d' : Directive}

theorem keys?_eq_toOption_sight : d.keys? case = (d.sight case).1.toOption := by
  rw [keys?, sight]
  cases Path.components d.path <;> rfl

theorem sight_of_components {cs : List String} (h : Path.components d.path = .ok cs) :
    (d.sight case).1 = .ok (cs.map case.key) := by
  rw [sight, h]
  rfl

theorem sight_of_malformed {source : PathError} (h : Path.components d.path = .error source) :
    (d.sight case).1 = .error source.unquoted := by
  rw [sight, h]
  rfl

/-- A path can be split iff this can be seen. -/
theorem splits_of_sight (h : d'.sight case = d.sight case)
    (hd : ∃ cs, Path.components d.path = .ok cs) : ∃ cs, Path.components d'.path = .ok cs := by
  obtain ⟨cs, hcs⟩ := hd
  cases hcs' : Path.components d'.path with
  | ok cs' => exact ⟨cs', rfl⟩
  | error source =>
      have hseen := (sight_of_malformed hcs').symm.trans
        ((congrArg Prod.fst h).trans (sight_of_components hcs))
      cases hseen

/-- Why a path cannot be split is seen but for the text of the path. -/
theorem malformed_of_sight {source : PathError} (h : d'.sight case = d.sight case)
    (hd : Path.components d.path = .error source) :
    ∃ source', Path.components d'.path = .error source' ∧ source'.unquoted = source.unquoted := by
  have hseen := (congrArg Prod.fst h).trans (sight_of_malformed hd)
  cases hcs' : Path.components d'.path with
  | ok cs' =>
      rw [sight_of_components hcs'] at hseen
      cases hseen
  | error source' =>
      rw [sight_of_malformed hcs'] at hseen
      exact ⟨source', rfl, Except.error.inj hseen⟩

theorem exists_mem_of_sights (h : ds'.map (sight case) = ds.map (sight case)) (hd : d ∈ ds) :
    ∃ d' ∈ ds', d'.sight case = d.sight case :=
  List.mem_map.1 (h ▸ List.mem_map_of_mem hd)

/-- Directives that look the same leave the same rules in force. -/
theorem sameRules_of_sights (h : ds'.map (sight case) = ds.map (sight case)) :
    SameRules case ds' ds := by
  have hseen (ds : List Directive) (keys : List String) : inForce? case ds keys =
      ((ds.map (sight case)).reverse.find? fun s => s.1.toOption = some keys).map (·.2) := by
    rw [inForce?, ← List.map_reverse, List.find?_map, Option.map_map]
    simp only [keys?_eq_toOption_sight]
    rfl
  intro keys
  rw [hseen, hseen, h]

theorem splits_of_sights (h : ds'.map (sight case) = ds.map (sight case))
    (hds : ∀ d ∈ ds, ∃ cs, Path.components d.path = .ok cs) :
    ∀ d ∈ ds', ∃ cs, Path.components d.path = .ok cs := by
  intro d' hd'
  obtain ⟨d, hd, hseen⟩ := exists_mem_of_sights h.symm hd'
  exact splits_of_sight hseen.symm (hds d hd)

theorem root_of_sights (h : ds'.map (sight case) = ds.map (sight case))
    (hroot : ∃ d ∈ ds, Path.components d.path = .ok []) :
    ∃ d ∈ ds', Path.components d.path = .ok [] := by
  obtain ⟨d, hd, hcs⟩ := hroot
  obtain ⟨d', hd', hseen⟩ := exists_mem_of_sights h hd
  have hkeys : d'.keys? case = some [] := by
    rw [keys?_eq_toOption_sight, hseen, ← keys?_eq_toOption_sight]
    exact keys?_eq_some_nil_iff.2 hcs
  exact ⟨d', hd', keys?_eq_some_nil_iff.1 hkeys⟩

theorem fits_of_sights (h : ds'.map (sight case) = ds.map (sight case)) (hds : Fits case ds) :
    Fits case ds' :=
  hds.of_leads fun keys => ((sameRules_of_sights h).leads_iff keys).1

theorem admissible_of_sights (h : ds'.map (sight case) = ds.map (sight case))
    (hds : Admissible case ds) : Admissible case ds' :=
  ⟨splits_of_sights h hds.splits, fits_of_sights h hds.fits⟩

/-- A defect is one behind directives that look the same, too. -/
theorem defect_of_sights {before before' : List Directive} {e : BuildError}
    (h : before'.map (sight case) = before.map (sight case)) (hseen : d'.sight case = d.sight case)
    (hd : Defect case before d e) : ∃ e', Defect case before' d' e' ∧ e'.unquoted = e.unquoted := by
  have hlength : before'.length = before.length := by simpa using congrArg List.length h
  have hall : (before' ++ [d']).map (sight case) = (before ++ [d]).map (sight case) := by
    rw [List.map_append, List.map_append, h, List.map_singleton, List.map_singleton, hseen]
  cases hd with
  | malformed hd =>
      obtain ⟨source', hsource, hreason⟩ := malformed_of_sight hseen hd
      refine ⟨_, .malformed hsource, ?_⟩
      rw [BuildError.unquoted, BuildError.unquoted, hreason, hlength]
  | noRoom hd hfull =>
      obtain ⟨cs, hcs⟩ := splits_of_sight hseen ⟨_, hd⟩
      exact ⟨.noRoom, .noRoom hcs fun hfits => hfull (fits_of_sights hall.symm hfits), rfl⟩

end Directive

namespace ScopeTree

variable {case : PathCase} {ds ds' : List Directive}

/-- Of directives that look the same, one list fails as the other does. -/
theorem ofDirectives_eq_error_of_sights
    (h : ds'.map (Directive.sight case) = ds.map (Directive.sight case)) {e : BuildError}
    (he : ofDirectives case ds = .error e) :
    ∃ e', ofDirectives case ds' = .error e' ∧ e'.unquoted = e.unquoted := by
  rcases cases_of_ofDirectives_eq_error he with
    ⟨rfl, hds, hroot⟩ | ⟨before, d, after, rfl, hbefore, hd⟩
  · refine ⟨.missingRootRule, ?_, rfl⟩
    refine (ofDirectives_eq_missingRootRule_iff (Directive.admissible_of_sights h hds)).2 ?_
    intro d' hd' hcs
    obtain ⟨d, hd, hcs⟩ := Directive.root_of_sights h.symm ⟨d', hd', hcs⟩
    exact hroot d hd hcs
  · rw [List.map_append, List.map_cons] at h
    obtain ⟨before', rest, rfl, hbefore', hrest⟩ := List.map_eq_append_iff.1 h
    obtain ⟨d', after', rfl, hseen, -⟩ := List.map_eq_cons_iff.1 hrest
    obtain ⟨e', hd', hreason⟩ := Directive.defect_of_sights hbefore' hseen hd
    have hadmissible := Directive.admissible_of_sights hbefore' hbefore
    exact ⟨e', ofDirectives_of_defect hadmissible hd', hreason⟩

/-- If they describe trees, these have as many scopes and rules and say the same of every
path. -/
theorem ofDirectives_eq_ok_of_sights
    (h : ds'.map (Directive.sight case) = ds.map (Directive.sight case)) {tree : ScopeTree}
    (htree : ofDirectives case ds = .ok tree) :
    ∃ tree', ofDirectives case ds' = .ok tree' ∧ tree'.nodeCount = tree.nodeCount ∧
      tree'.explicitCount = tree.explicitCount ∧
      ∀ q, (tree'.resolveComponents q).findings = (tree.resolveComponents q).findings := by
  obtain ⟨hsplit, hroot, hfits⟩ := exists_ofDirectives_eq_ok_iff.1 ⟨tree, htree⟩
  obtain ⟨tree', htree'⟩ := exists_ofDirectives_eq_ok_iff.2
    ⟨Directive.splits_of_sights h hsplit, Directive.root_of_sights h hroot,
      Directive.fits_of_sights h hfits⟩
  have hsame := Directive.sameRules_of_sights h
  have hbelow := withKeys_eq_of_sameRules htree' htree hsame
  refine ⟨tree', htree', ?_, ?_, fun q => ?_⟩
  · rw [nodeCount, nodeCount, ← Forest.size_withKeys, hbelow, Forest.size_withKeys]
  · rw [explicitCount, explicitCount, ← Forest.ruled_withKeys, hbelow, Forest.ruled_withKeys]
  · exact (resolveComponents_agrees htree' q).findings_eq
      (hsame.ruleMap_eq ▸ resolveComponents_agrees htree q)

end ScopeTree

/-! ## Components replaced by their keys -/

namespace PathCase

/-- Directives for paths that are given by their components. -/
def joined (ds : List (List String × Rule)) : List Directive :=
  ds.map fun d => ⟨Path.slashed d.1, d.2⟩

/-- The same with the keys of the components. -/
def keyed (case : PathCase) (ds : List (List String × Rule)) : List (List String × Rule) :=
  ds.map fun d => (d.1.map case.key, d.2)

variable {case : PathCase} {ds : List (List String × Rule)}

theorem map_key_map_key (case : PathCase) (names : List String) :
    (names.map case.key).map case.key = names.map case.key := by
  simp only [List.map_map, Function.comp_def, key_key]

/-- Directives look the same with the keys of the components. -/
theorem sights_joined_keyed (h : ∀ d ∈ ds, ∀ name ∈ d.1, Path.Plain name) :
    (joined (keyed case ds)).map (Directive.sight case) =
      (joined ds).map (Directive.sight case) := by
  simp only [joined, keyed, List.map_map]
  refine List.map_congr_left fun d hd => Prod.ext ?_ rfl
  have hkeys := Path.components_slashed_key case (h d hd)
  have hseen (result : Except PathError (List String)) :
      (result.map (·.map case.key)).mapError PathError.unquoted =
        (result.mapError PathError.unquoted).map (·.map case.key) := by
    cases result <;> rfl
  simp only [Function.comp_apply, Directive.sight, hseen, hkeys]
  cases Path.components (Path.slashed d.1) with
  | error source => rfl
  | ok names => exact congrArg Except.ok (map_key_map_key case names)

/-- Where canonical paths can have the components, both lists fail for the same reason. -/
theorem eq_of_unquoted_eq (h : ∀ d ∈ ds, ∀ name ∈ d.1, Path.IsComponent name) {e e' : BuildError}
    (he : ScopeTree.ofDirectives case (joined ds) = .error e)
    (he' : e'.unquoted = e.unquoted) : e' = e := by
  rcases ScopeTree.cases_of_ofDirectives_eq_error he with
    ⟨rfl, -⟩ | ⟨before, d, after, hds, -, hd⟩
  · cases e' <;> cases he'
    rfl
  · have hmem : d ∈ joined ds := by simp [hds]
    obtain ⟨given, hgiven, rfl⟩ := List.mem_map.1 hmem
    cases hd with
    | malformed hd =>
        obtain rfl := Path.eq_tooDeep_of_components_slashed (h given hgiven) hd
        cases e' with
        | malformedPath index' source' =>
            obtain ⟨rfl, hsource⟩ := BuildError.malformedPath.inj he'
            rw [PathError.eq_tooDeep_of_unquoted hsource]
        | _ => cases he'
    | noRoom => cases e' <;> cases he'; rfl

/-- **Normal forms**: the key of a key is that key, and the key of a component is one that
canonical paths can have iff the component is.  Take directives for paths that are given by
their components, and put the keys in place of the components.  Building fails for the same
reason or not at all, and the two trees have as many scopes and rules; they say the same of
every path and of its keys.  What is reported of a path that cannot be split quotes the text,
and nothing else in it changes; of components that canonical paths can have, no text is
quoted. -/
theorem keys_are_normal_forms (case : PathCase) :
    (∀ c, case.key (case.key c) = case.key c) ∧
    (∀ c, Path.IsComponent (case.key c) ↔ Path.IsComponent c) ∧
    ∀ ds : List (List String × Rule), (∀ d ∈ ds, ∀ name ∈ d.1, Path.Plain name) →
      let built := ScopeTree.ofDirectives case (joined ds)
      let rebuilt := ScopeTree.ofDirectives case (joined (keyed case ds))
      (∀ e, built = .error e → ∃ e', rebuilt = .error e' ∧ e'.unquoted = e.unquoted ∧
        ((∀ d ∈ ds, ∀ name ∈ d.1, Path.IsComponent name) → e' = e)) ∧
      ∀ tree, built = .ok tree → ∃ tree', rebuilt = .ok tree' ∧
        tree'.nodeCount = tree.nodeCount ∧ tree'.explicitCount = tree.explicitCount ∧
        ∀ q, (tree'.resolveComponents q).findings = (tree.resolveComponents q).findings ∧
          (tree'.resolveComponents (q.map case.key)).findings =
            (tree.resolveComponents q).findings := by
  refine ⟨key_key case, isComponent_key_iff case, fun ds hds =>
    ⟨fun e he => ?_, fun tree htree => ?_⟩⟩
  · obtain ⟨e', he', hreason⟩ :=
      ScopeTree.ofDirectives_eq_error_of_sights (sights_joined_keyed hds) he
    exact ⟨e', he', hreason, fun hvalid => eq_of_unquoted_eq hvalid he hreason⟩
  · obtain ⟨tree', htree', hnodes, hrules, hfindings⟩ :=
      ScopeTree.ofDirectives_eq_ok_of_sights (sights_joined_keyed hds) htree
    refine ⟨tree', htree', hnodes, hrules, fun q => ⟨hfindings q, ?_⟩⟩
    obtain ⟨-, rfl, -⟩ := ScopeTree.ofDirectives_eq_ok_iff.1 htree
    have hsearch := Cursor.advance_congr (map_key_map_key tree.case q) tree.rootCursor
    rw [hfindings, ScopeTree.resolveComponents, ScopeTree.resolveFrom, hsearch]
    rfl

/-- Directives for a path with a dotted capital I, a sigma that ends a word, and a capital
without a small letter. -/
def sampleComponents : List (List String × Rule) :=
  [([], ⟨.maskAll, .allowRead, .scope⟩),
    (["\u0130S", "\u039F\u03A3"], ⟨.maskNone, .allowWrite, .scope⟩),
    (["\u0130S", "\u039F\u03A3", "\u2102"], ⟨.maskAll, .deny, .exact⟩)]

/-- The keys are other texts, one of them longer and one with a capital still.  The trees are
for the same paths.  Of dots, the one path is quoted in place of the other. -/
theorem keys_are_normal_forms_sample :
    keyed .insensitive sampleComponents =
        [([], ⟨.maskAll, .allowRead, .scope⟩),
          (["i\u0307s", "\u03BF\u03C2"], ⟨.maskNone, .allowWrite, .scope⟩),
          (["i\u0307s", "\u03BF\u03C2", "\u2102"], ⟨.maskAll, .deny, .exact⟩)] ∧
      (∃ tree tree', ScopeTree.ofDirectives .insensitive (joined sampleComponents) = .ok tree ∧
        ScopeTree.ofDirectives .insensitive (joined (keyed .insensitive sampleComponents)) =
          .ok tree' ∧ tree'.nodeCount = tree.nodeCount ∧
        (tree'.resolveComponents (["\u0130S", "\u039F\u03A3"].map (key .insensitive))).findings =
          (tree.resolveComponents ["\u0130S", "\u039F\u03A3"]).findings) ∧
      ∃ e, ScopeTree.ofDirectives .insensitive (joined
          (keyed .insensitive [(["A", "..", "\u0130"], ⟨.maskAll, .deny, .exact⟩)])) = .error e ∧
        e.unquoted = .malformedPath 0 (.nonCanonical "" "..") := by
  obtain ⟨-, -, h⟩ := keys_are_normal_forms .insensitive
  obtain ⟨tree, htree⟩ :
      ∃ tree, ScopeTree.ofDirectives .insensitive (joined sampleComponents) = .ok tree := ⟨_, rfl⟩
  obtain ⟨-, hok⟩ := h sampleComponents (by decide +kernel)
  obtain ⟨tree', htree', hnodes, -, hfindings⟩ := hok tree htree
  obtain ⟨herror, -⟩ := h [(["A", "..", "\u0130"], ⟨.maskAll, .deny, .exact⟩)] (by decide +kernel)
  obtain ⟨e, he, hreason, -⟩ := herror (.malformedPath 0 (.nonCanonical "/A/../\u0130" "..")) rfl
  exact ⟨by decide +kernel, ⟨tree, tree', htree, htree', hnodes,
    (hfindings _).2⟩, e, he, hreason⟩

end PathCase

end AccessPolicy
