import AccessPolicy.Proofs.Lookup
import AccessPolicy.Scope.Tree

/-!
# AccessPolicy.Proofs.CaseKeys

When the key of a component is its lowercase form.

A component that has no uppercase character is its own key, without a copy.  Its
lowercase form may be another text all the same: the letters of title case, which stand
for a capital and a small letter at once, are not uppercase and have lowercase forms.

1. The tables are compared: a character that lowercasing changes is uppercase or of
   title case.  The letters and the uppercase characters are listed in ascending order,
   so `covered` passes through both lists side by side.
2. `lowercase_eq_self_iff` — a text without an uppercase character is its own lowercase
   form iff it has no letter of title case.
3. `resolveFrom_eq_iff` — of a path, trees see the keys and nothing else.
4. `key_matches_lowercase` — keys and searches go by the lowercase forms of components
   except for those that merely look small.
-/

namespace AccessPolicy

namespace Text

/-! ## Tables -/

/-- The code points of a run, from the first. -/
def Run.points (r : Run) : List Nat :=
  (List.range ((r.last - r.first) / r.step + 1)).map fun i => r.first + i * r.step

theorem Run.mem_points {r : Run} {n : Nat} (h : r.holds n = true) : n ∈ r.points := by
  simp only [holds, Bool.and_eq_true, decide_eq_true_eq, beq_iff_eq] at h
  obtain ⟨⟨hfirst, hlast⟩, hstep⟩ := h
  have hindex : (n - r.first) / r.step < (r.last - r.first) / r.step + 1 :=
    Nat.lt_succ_of_le (Nat.div_le_div_right (Nat.sub_le_sub_right hlast _))
  refine List.mem_map.2 ⟨(n - r.first) / r.step, List.mem_range.2 hindex, ?_⟩
  rw [Nat.div_mul_cancel (Nat.dvd_of_mod_eq_zero hstep), Nat.add_sub_cancel' hfirst]

/-- In a list that ascends, a run is found wherever it stands. -/
theorem inRuns_of_mem {n : Nat} {r : Run} {rs : List Run}
    (hrs : rs.Pairwise fun a b => a.first ≤ b.first) (hmem : r ∈ rs) (h : r.holds n = true) :
    inRuns n rs = true := by
  induction rs with
  | nil => simp at hmem
  | cons r' rs ih =>
      obtain ⟨hfirst, hrs⟩ := List.pairwise_cons.1 hrs
      rcases List.mem_cons.1 hmem with rfl | hmem
      · exact inRuns_of_holds h
      · have hle : r.first ≤ n := by
          simp only [Run.holds, Bool.and_eq_true, decide_eq_true_eq] at h
          exact h.1.1
        simp [inRuns, (hfirst r hmem).trans hle, ih hrs hmem]

/-- Whether ascending code points are all in the runs, or let off. -/
def covered (letOff : Nat → Bool) : List Nat → List Run → Bool
  | [], _ => true
  | n :: ns, rs =>
      match rs.dropWhile fun r => decide (r.last < n) with
      | [] => false
      | r :: rest => (r.holds n || letOff n) && covered letOff ns (r :: rest)

theorem covered_sound {letOff : Nat → Bool} {ns : List Nat} {rs : List Run}
    (h : covered letOff ns rs = true) :
    ∀ n ∈ ns, (∃ r ∈ rs, r.holds n = true) ∨ letOff n = true := by
  induction ns generalizing rs with
  | nil => simp
  | cons n ns ih =>
      rw [covered] at h
      cases hdrop : rs.dropWhile fun r => decide (r.last < n) with
      | nil => simp [hdrop] at h
      | cons r rest =>
          simp only [hdrop, Bool.and_eq_true, Bool.or_eq_true] at h
          have hsub : ∀ r' ∈ r :: rest, r' ∈ rs := fun r' hr' =>
            (List.dropWhile_sublist _).subset (hdrop ▸ hr')
          refine List.forall_mem_cons.2 ⟨?_, fun m hm => ?_⟩
          · exact h.1.imp_left fun hholds => ⟨r, hsub r List.mem_cons_self, hholds⟩
          · exact (ih h.2 m hm).imp_left fun ⟨r', hr', hholds⟩ => ⟨r', hsub r' hr', hholds⟩

/-- The letters of title case. -/
def titlecaseRuns : List Run := [
  ⟨0x1C5, 0x1CB, 3⟩, ⟨0x1F2, 0x1F2, 1⟩, ⟨0x1F88, 0x1F8F, 1⟩, ⟨0x1F98, 0x1F9F, 1⟩,
  ⟨0x1FA8, 0x1FAF, 1⟩, ⟨0x1FBC, 0x1FCC, 16⟩, ⟨0x1FFC, 0x1FFC, 1⟩]

/-- Whether a character is a letter of title case. -/
def isTitlecase (c : Char) : Bool := inRuns c.toNat titlecaseRuns

theorem pairwise_uppercaseRuns : uppercaseRuns.Pairwise fun a b => a.first ≤ b.first := by
  have hchain : (uppercaseRuns.map Run.first).IsChain (· ≤ ·) := by decide +kernel
  exact List.pairwise_map.1 hchain.pairwise

/-- The letters that have another lowercase form are uppercase or of title case. -/
theorem covered_lowercaseShifts :
    covered (fun n => inRuns n titlecaseRuns) (lowercaseShifts.flatMap (·.run.points))
      uppercaseRuns = true := by
  decide +kernel

/-- The letters of title case have another lowercase form. -/
theorem lowerChar_titlecaseRuns :
    ((titlecaseRuns.flatMap Run.points).all fun n =>
      decide (lowerChar (Char.ofNat n) ≠ [Char.ofNat n])) = true := by
  decide +kernel

/-! ## Characters -/

theorem isUppercase_of_mem_lowercaseShifts {c : Char} {s : Shift} (hs : s ∈ lowercaseShifts)
    (h : s.run.holds c.toNat = true) : isUppercase c = true ∨ isTitlecase c = true := by
  have hpoint : c.toNat ∈ lowercaseShifts.flatMap (·.run.points) :=
    List.mem_flatMap.2 ⟨s, hs, Run.mem_points h⟩
  refine (covered_sound covered_lowercaseShifts _ hpoint).imp_left ?_
  rintro ⟨r, hr, hholds⟩
  exact inRuns_of_mem pairwise_uppercaseRuns hr hholds

/-- Every character but the dotted capital I has a lowercase form of one character. -/
theorem exists_lowerChar {c : Char} (h : c ≠ '\u0130') : ∃ d, lowerChar c = [d] := by
  rw [lowerChar, if_neg h]
  split
  · exact ⟨_, rfl⟩
  · exact ⟨c, rfl⟩

/-- The two letters with rules of their own are uppercase. -/
theorem ne_of_not_isUppercase {c : Char} (h : isUppercase c = false) :
    c ≠ '\u0130' ∧ c ≠ '\u03A3' := by
  have hdotted : isUppercase '\u0130' = true := by decide +kernel
  have hsigma : isUppercase '\u03A3' = true := by decide +kernel
  exact ⟨fun hc => by simp [hc, hdotted] at h, fun hc => by simp [hc, hsigma] at h⟩

/-- A character that is not uppercase keeps its form unless it is of title case. -/
theorem lowerChar_eq_self_iff {c : Char} (h : isUppercase c = false) :
    lowerChar c = [c] ↔ isTitlecase c = false := by
  constructor
  · intro hself
    refine Bool.eq_false_iff.2 fun htitle => ?_
    obtain ⟨r, hr, hholds⟩ := exists_holds_of_inRuns htitle
    have hpoint : c.toNat ∈ titlecaseRuns.flatMap Run.points :=
      List.mem_flatMap.2 ⟨r, hr, Run.mem_points hholds⟩
    have hne := List.all_eq_true.1 lowerChar_titlecaseRuns _ hpoint
    rw [Char.ofNat_toNat, decide_eq_true_eq] at hne
    exact hne hself
  · intro hplain
    rw [lowerChar, if_neg (ne_of_not_isUppercase h).1]
    split
    · rename_i s hs
      have hholds : s.run.holds c.toNat = true := by
        simpa using List.find?_some hs
      rcases isUppercase_of_mem_lowercaseShifts (List.mem_of_find?_eq_some hs) hholds
        with hup | htitle
      · exact absurd hup (by simp [h])
      · exact absurd htitle (by simp [hplain])
    · rfl

/-! ## Texts -/

/-- Without uppercase characters, lowercasing changes the letters of title case and
nothing else. -/
theorem lowerFrom_eq_self_iff {cs : List Char} (h : ∀ c ∈ cs, isUppercase c = false)
    (before : List Char) : lowerFrom before cs = cs ↔ ∀ c ∈ cs, isTitlecase c = false := by
  induction cs generalizing before with
  | nil => simp [lowerFrom]
  | cons c cs ih =>
      obtain ⟨hc, hcs⟩ := List.forall_mem_cons.1 h
      obtain ⟨hdotted, hsigma⟩ := ne_of_not_isUppercase hc
      obtain ⟨d, hd⟩ := exists_lowerChar hdotted
      have hself : d = c ↔ isTitlecase c = false := by
        simpa [hd] using lowerChar_eq_self_iff hc
      rw [lowerFrom, if_neg hsigma, hd, List.singleton_append, List.cons.injEq, hself, ih hcs,
        List.forall_mem_cons]

/-- A text without uppercase characters is its own lowercase form iff it has no letter of
title case. -/
theorem lowercase_eq_self_iff {s : String} (h : s.toList.any isUppercase = false) :
    lowercase s = s ↔ s.toList.any isTitlecase = false := by
  rw [lowercase, ← String.toList_inj, String.toList_ofList, List.any_eq_false]
  simp only [List.any_eq_false, Bool.not_eq_true] at h
  simpa using lowerFrom_eq_self_iff h []

/-! ## Characters that are no letters -/

/-- The lowercase forms of letters stand from the small a on. -/
theorem targets_lowercaseShifts : ∀ s ∈ lowercaseShifts, 0x61 ≤ s.target ∧
    (s.target + (s.run.last - s.run.first) < 0xD800 ∨
      0xDFFF < s.target ∧ s.target + (s.run.last - s.run.first) < 0x110000) := by
  decide +kernel

/-- The form of a letter is the character with the code point that the table gives. -/
theorem toNat_ofNat_target {s : Shift} (hs : s ∈ lowercaseShifts) {n : Nat}
    (h : s.run.holds n = true) :
    (Char.ofNat (s.target + (n - s.run.first))).toNat = s.target + (n - s.run.first) := by
  obtain ⟨-, hvalid⟩ := targets_lowercaseShifts s hs
  simp only [Run.holds, Bool.and_eq_true, decide_eq_true_eq] at h
  have hchar : (s.target + (n - s.run.first)).isValidChar := by
    simp only [Nat.isValidChar]
    omega
  rw [Char.ofNat, dif_pos hchar]
  rfl

theorem le_of_mem_lowerChar {c d : Char} (hd : d ∈ lowerChar c) : d = c ∨ 0x61 ≤ d.toNat := by
  rw [lowerChar] at hd
  split at hd
  · simp only [List.mem_cons, List.not_mem_nil, or_false] at hd
    rcases hd with rfl | rfl <;> exact .inr (by decide)
  · split at hd
    · rename_i s hs
      have hmem := List.mem_of_find?_eq_some hs
      have hlow := (targets_lowercaseShifts s hmem).1
      have hholds : s.run.holds c.toNat = true := by simpa using List.find?_some hs
      obtain rfl := List.mem_singleton.1 hd
      rw [toNat_ofNat_target hmem hholds]
      exact .inr (by omega)
    · exact .inl (List.mem_singleton.1 hd)

/-- A character below the small letters that has no other lowercase form stays where it is,
and it comes from no other one. -/
theorem mem_lowerFrom_iff {d : Char} (hlow : d.toNat < 0x61) (hself : lowerChar d = [d])
    (before cs : List Char) : d ∈ lowerFrom before cs ↔ d ∈ cs := by
  induction cs generalizing before with
  | nil => rfl
  | cons c cs ih =>
      rw [lowerFrom, List.mem_append, ih, List.mem_cons]
      refine or_congr_left ?_
      split
      · rename_i hsigma
        have hne : d ≠ '\u03A3' := by
          rintro rfl
          exact absurd hlow (by decide)
        rw [hsigma, List.mem_singleton, lowerSigma]
        refine iff_of_false ?_ hne
        split <;> rintro rfl <;> exact absurd hlow (by decide)
      · constructor
        · intro hmem
          exact (le_of_mem_lowerChar hmem).resolve_right (by omega)
        · rintro rfl
          rw [hself]
          exact List.mem_singleton_self _

end Text

/-- A character that is no letter is in the key of a component iff it is in the component. -/
theorem PathCase.mem_key_iff {d : Char} (hlow : d.toNat < 0x61) (hself : Text.lowerChar d = [d])
    (case : PathCase) (component : String) :
    d ∈ (case.key component).toList ↔ d ∈ component.toList := by
  rw [key]
  split
  · rw [Text.lowercase, String.toList_ofList]
    exact Text.mem_lowerFrom_iff hlow hself _ _
  · rfl

/-! ## Searches -/

namespace Cursor

/-- A search sees the keys of the components only. -/
theorem advance_congr {case : PathCase} {xs ys : List String}
    (h : xs.map case.key = ys.map case.key) (c : Cursor) :
    c.advance case xs = c.advance case ys := by
  induction xs generalizing ys c with
  | nil => rw [List.map_eq_nil_iff.1 h.symm]
  | cons x xs ih =>
      cases ys with
      | nil => simp at h
      | cons y ys =>
          obtain ⟨hkey, hkeys⟩ := List.cons.inj h
          rw [advance_cons, advance_cons, ih hkeys]
          simp only [step, hkey]

/-- A search that goes on is over as soon as the keys lead to no scope. -/
theorem truncated_advance (case : PathCase) {c : Cursor} (h : c.truncated = false)
    (xs : List String) :
    (c.advance case xs).truncated = (c.scope.at? (xs.map case.key)).isNone := by
  induction xs generalizing c with
  | nil => simpa [Scope.at?] using h
  | cons x xs ih =>
      rw [advance_cons, List.map_cons, Scope.at?]
      cases hfound : c.scope.below.find? (case.key x) with
      | none =>
          have hover : c.step case x = { c with truncated := true } := by simp [step, h, hfound]
          rw [hover, advance_of_truncated rfl]
          rfl
      | some s =>
          have hstep : c.step case x = c.enter s := by simp [step, h, hfound]
          have hscope : (c.enter s).scope = s := by unfold enter; split <;> rfl
          have hlive : (c.enter s).truncated = false := by
            unfold enter; split <;> simp [h]
          rw [hstep, ih hlive, hscope]
          rfl

end Cursor

namespace ScopeTree

/-- A tree whose scopes below the root are those on the way to one path. -/
def leadingTo (case : PathCase) (path : List String) : ScopeTree where
  case := case
  rootRule := ⟨.maskAll, .allowAll, .scope⟩
  below := (Scope.blank.insert case ⟨.maskAll, .deny, .scope⟩ path).below

/-- A search of that tree goes on as long as it keeps to the way. -/
theorem truncated_leadingTo (case : PathCase) (path xs : List String) :
    ((leadingTo case path).resolveComponents xs).truncated =
      !((xs.map case.key).isPrefixOf (path.map case.key)) := by
  have hscope : ((leadingTo case path).root.at? (xs.map case.key)).isSome =
      ((Scope.blank.insert case ⟨.maskAll, .deny, .scope⟩ path).at? (xs.map case.key)).isSome := by
    cases xs <;> rfl
  have hblank : (Scope.blank.at? (xs.map case.key)).isSome =
      ((xs.map case.key).isEmpty) := Scope.isSome_at?_blank _
  rw [Scope.isSome_at?_insert (s := .blank) trivial, hblank] at hscope
  rw [Resolution.truncated, resolveComponents, resolveFrom, Cursor.cursor_resolution]
  refine (Cursor.truncated_advance case rfl xs).trans ?_
  rw [← Option.not_isSome]
  refine (congrArg (!·) hscope).trans ?_
  cases xs <;> simp

/-- Two paths are told apart by some tree iff their keys differ. -/
theorem resolveFrom_eq_iff (case : PathCase) (xs ys : List String) :
    (∀ tree : ScopeTree, tree.case = case → ∀ cursor,
      tree.resolveFrom cursor xs = tree.resolveFrom cursor ys) ↔
      xs.map case.key = ys.map case.key := by
  constructor
  · intro h
    have hleads (path : List String) : (xs.map case.key).isPrefixOf (path.map case.key) =
        (ys.map case.key).isPrefixOf (path.map case.key) := by
      have hsame : (leadingTo case path).resolveComponents xs =
          (leadingTo case path).resolveComponents ys := h _ rfl _
      simpa [truncated_leadingTo] using congrArg Resolution.truncated hsame
    have hself (path : List String) :
        (path.map case.key).isPrefixOf (path.map case.key) = true :=
      List.isPrefixOf_iff_prefix.2 (List.prefix_refl _)
    have hys := List.isPrefixOf_iff_prefix.1 ((hleads xs).symm.trans (hself xs))
    have hxs := List.isPrefixOf_iff_prefix.1 ((hleads ys).trans (hself ys))
    exact hxs.eq_of_length_le hys.length_le
  · rintro h tree rfl cursor
    rw [resolveFrom, resolveFrom, Cursor.advance_congr h]

end ScopeTree

/-! ## Keys and lowercase forms -/

namespace PathCase

/-- A component that no uppercase character gives away, although it has a letter of
title case. -/
def PassesForLower (component : String) : Prop :=
  component.toList.any Text.isUppercase = false ∧ component.toList.any Text.isTitlecase = true

instance (component : String) : Decidable (PassesForLower component) :=
  inferInstanceAs (Decidable (_ ∧ _))

/-- The key is the lowercase form of a component that does not pass for lowercase. -/
theorem key_eq_lowercase_iff (c : String) :
    key .insensitive c = Text.lowercase c ↔ ¬ PassesForLower c := by
  rw [key, folds, PassesForLower]
  cases hup : c.toList.any Text.isUppercase with
  | true => simp
  | false =>
      rw [if_neg (by decide), eq_comm, Text.lowercase_eq_self_iff hup]
      simp

/-- A component that passes for lowercase is its own key. -/
theorem key_of_passesForLower {c : String} (h : PassesForLower c) : key .insensitive c = c := by
  simp [key, folds, h.1]

/-- Two components with one lowercase form have one key, unless one that passes for
lowercase is compared with another. -/
theorem key_eq_key_iff {c d : String} (h : Text.lowercase c = Text.lowercase d) :
    key .insensitive c = key .insensitive d ↔
      c = d ∨ ¬ PassesForLower c ∧ ¬ PassesForLower d := by
  have hc := key_eq_lowercase_iff c
  have hd := key_eq_lowercase_iff d
  by_cases hpc : PassesForLower c <;> by_cases hpd : PassesForLower d
  · rw [key_of_passesForLower hpc, key_of_passesForLower hpd]
    simp [hpc]
  · have hne : c ≠ d := fun he => hpd (he ▸ hpc)
    rw [key_of_passesForLower hpc] at hc ⊢
    rw [hd.2 hpd, ← h]
    simp [hc, hpc, hne]
  · have hne : c ≠ d := fun he => hpc (he ▸ hpd)
    rw [key_of_passesForLower hpd] at hd ⊢
    rw [hc.2 hpc, h, eq_comm]
    simp [hd, hpd, hne]
  · simp [hc.2 hpc, hd.2 hpd, h, hpc, hpd]

/-- The same for components side by side. -/
theorem keys_eq_keys_iff {xs ys : List String}
    (h : xs.map Text.lowercase = ys.map Text.lowercase) :
    xs.map (key .insensitive) = ys.map (key .insensitive) ↔
      List.Forall₂ (fun x y => x = y ∨ ¬ PassesForLower x ∧ ¬ PassesForLower y) xs ys := by
  induction xs generalizing ys with
  | nil =>
      obtain rfl := List.map_eq_nil_iff.1 h.symm
      simp
  | cons x xs ih =>
      cases ys with
      | nil => simp at h
      | cons y ys =>
          obtain ⟨hxy, hrest⟩ := List.cons.inj h
          rw [List.map_cons, List.map_cons, List.cons.injEq, List.forall₂_cons,
            key_eq_key_iff hxy, ih hrest]

/-- **Case keys**: where case does not matter, the key of a component is its lowercase
form unless the component passes for lowercase.  Components with one lowercase form have
one key, and paths of such components are resolved alike from everywhere in every tree,
with the same exception. -/
theorem key_matches_lowercase (c d : String) (xs ys : List String) :
    (key .insensitive c = Text.lowercase c ↔ ¬ PassesForLower c) ∧
    (Text.lowercase c = Text.lowercase d →
      (key .insensitive c = key .insensitive d ↔
        c = d ∨ ¬ PassesForLower c ∧ ¬ PassesForLower d)) ∧
    (xs.map Text.lowercase = ys.map Text.lowercase →
      ((∀ tree : ScopeTree, tree.case = .insensitive → ∀ cursor,
          tree.resolveFrom cursor xs = tree.resolveFrom cursor ys) ↔
        List.Forall₂ (fun x y => x = y ∨ ¬ PassesForLower x ∧ ¬ PassesForLower y) xs ys)) := by
  refine ⟨key_eq_lowercase_iff c, key_eq_key_iff, fun h => ?_⟩
  rw [ScopeTree.resolveFrom_eq_iff, keys_eq_keys_iff h]

/-- A final sigma and a letter of title case beside a capital are found like their
lowercase forms. -/
theorem key_matches_lowercase_sample :
    ["\u03A3\u0391\u03A3", "A\u01C5"].map Text.lowercase =
        ["\u03C3\u03B1\u03C2", "a\u01C6"].map Text.lowercase ∧
      key .insensitive "A\u01C5" = key .insensitive "a\u01C6" ∧
      ∀ tree : ScopeTree, tree.case = .insensitive → ∀ cursor,
        tree.resolveFrom cursor ["\u03A3\u0391\u03A3", "A\u01C5"] =
          tree.resolveFrom cursor ["\u03C3\u03B1\u03C2", "a\u01C6"] := by
  have hforms : ["\u03A3\u0391\u03A3", "A\u01C5"].map Text.lowercase =
      ["\u03C3\u03B1\u03C2", "a\u01C6"].map Text.lowercase := by decide +kernel
  have hform : Text.lowercase "A\u01C5" = Text.lowercase "a\u01C6" := by decide +kernel
  obtain ⟨-, hkeys, hresolved⟩ := key_matches_lowercase "A\u01C5" "a\u01C6"
    ["\u03A3\u0391\u03A3", "A\u01C5"] ["\u03C3\u03B1\u03C2", "a\u01C6"]
  exact ⟨hforms, (hkeys hform).2 (by decide +kernel), (hresolved hforms).2 (by decide +kernel)⟩

/-- A letter of title case alone is its own key, so a rule that denies its lowercase form
does not apply to it. -/
theorem titlecase_misses_rule :
    key .insensitive "\u01C5" ≠ Text.lowercase "\u01C5" ∧
      Text.lowercase "\u01C5" = Text.lowercase "\u01C6" ∧
      ∃ tree, ScopeTree.ofDirectives .insensitive
          [⟨"/", ⟨.maskAll, .allowRead, .scope⟩⟩, ⟨"/\u01C6", ⟨.maskAll, .deny, .scope⟩⟩] =
          .ok tree ∧
        (tree.resolveComponents ["\u01C6"]).policy.contains .deny = true ∧
        (tree.resolveComponents ["\u01C5"]).policy.contains .deny = false := by
  refine ⟨by decide +kernel, by decide +kernel, _, rfl, ?_, ?_⟩ <;> decide +kernel

end PathCase

end AccessPolicy
