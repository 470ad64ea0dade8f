import AccessPolicy.Proofs.Determinacy

/-!
# AccessPolicy.Proofs.Naming

The names of scopes.

A scope keeps the name that the first directive on the way through it spells.  No later
directive changes it, in whatever spelling it comes.

* `Scope.nameAt?_insert` — to insert a rule adds names and changes none;
* `nameAt?_insertAll` — the names of scopes are the first spellings.
-/

namespace AccessPolicy

/-! ## First spellings -/

namespace Directive

/-- The names that the path of a directive spells, from the root on, which has none. -/
def names (d : Directive) : List String := "" :: (Path.components d.path).toOption.getD []

/-- Whether the path of a directive leads through keys. -/
def leadsTo (case : PathCase) (keys : List String) (d : Directive) : Bool :=
  (d.keys? case).any (keys.isPrefixOf ·)

/-- The name under which directives first lead to keys. -/
def spelling? (case : PathCase) (ds : List Directive) (keys : List String) : Option String :=
  (ds.find? (leadsTo case keys)).bind (·.names[keys.length]?)

variable {case : PathCase} {ds : List Directive} {d : Directive} {keys cs : List String}

theorem names_of_components (h : Path.components d.path = .ok cs) : d.names = "" :: cs := by
  rw [names, h]
  rfl

theorem leadsTo_iff (h : Path.components d.path = .ok cs) :
    leadsTo case keys d = true ↔ keys <+: cs.map case.key := by
  rw [leadsTo, keys?_of_components h, Option.any_some, List.isPrefixOf_iff_prefix]

/-- A directive that leads through keys spells a name there, which has the last of them. -/
theorem exists_name_of_leadsTo (h : leadsTo case keys d = true) :
    ∃ name, d.names[keys.length]? = some name ∧ ∀ p k, keys = p ++ [k] → case.key name = k := by
  cases hd : Path.components d.path with
  | error e => simp [leadsTo, keys?, hd, Except.toOption] at h
  | ok cs =>
      have hpre := (leadsTo_iff hd).1 h
      rw [names_of_components hd]
      cases keys using List.reverseRecOn with
      | nil => exact ⟨"", rfl, fun p k hnil => absurd hnil (by simp)⟩
      | append_singleton p k =>
          have hget : (cs.map case.key)[p.length]? = some k := by
            obtain ⟨rest, hrest⟩ := hpre
            rw [← hrest, List.append_assoc]
            simp
          rw [List.getElem?_map, Option.map_eq_some_iff] at hget
          obtain ⟨name, hname, hkey⟩ := hget
          refine ⟨name, by simpa using hname, fun p' k' heq => ?_⟩
          rw [hkey]
          exact (List.append_inj' heq rfl).2 |> List.singleton_inj.1

/-- The name of keys has the last of them. -/
theorem key_of_spelling? {p : List String} {k name : String}
    (h : spelling? case ds (p ++ [k]) = some name) : case.key name = k := by
  obtain ⟨d, hd, hname⟩ := Option.bind_eq_some_iff.1 h
  obtain ⟨name', hname', hkey⟩ := exists_name_of_leadsTo (List.find?_some hd)
  obtain rfl := Option.some.inj (hname.symm.trans hname')
  exact hkey p k rfl

/-- What directives lead through has a name. -/
theorem isSome_spelling?_iff : (spelling? case ds keys).isSome = true ↔ Leads case ds keys := by
  have hleads : Leads case ds keys ↔ ∃ d ∈ ds, leadsTo case keys d = true := by
    simp only [Leads, leadsTo, Option.any_eq_true, List.isPrefixOf_iff_prefix]
  rw [hleads, ← List.find?_isSome, spelling?]
  cases hfound : ds.find? (leadsTo case keys) with
  | none => simp
  | some d =>
      obtain ⟨name, hname, -⟩ := exists_name_of_leadsTo (List.find?_some hfound)
      simp [hname]

/-- What is appended names nothing again. -/
theorem spelling?_append (h : Leads case ds keys) (more : List Directive) :
    spelling? case (ds ++ more) keys = spelling? case ds keys := by
  obtain ⟨name, hname⟩ := Option.isSome_iff_exists.1 (isSome_spelling?_iff.2 h)
  obtain ⟨d, hd, hat⟩ := Option.bind_eq_some_iff.1 hname
  rw [hname, spelling?, List.find?_append, hd, Option.some_or, Option.bind_some, hat]

/-- One directive more names what was not named before. -/
theorem spelling?_concat (h : Path.components d.path = .ok cs) :
    spelling? case (ds ++ [d]) keys =
      (spelling? case ds keys).or
        (if keys <+: cs.map case.key then ("" :: cs)[keys.length]? else none) := by
  rw [spelling?, spelling?, List.find?_append]
  cases hfound : ds.find? (leadsTo case keys) with
  | some e =>
      obtain ⟨name, hname, -⟩ := exists_name_of_leadsTo (List.find?_some hfound)
      simp [hname]
  | none =>
      simp only [Option.none_or, Option.bind_none, List.find?_singleton, ← leadsTo_iff h]
      split
      · rw [Option.bind_some, names_of_components h]
      · rfl

end Directive

/-! ## Names of scopes -/

namespace Forest

/-- The name of the scope at a key. -/
def name? (key : String) : Forest → Option String
  | .nil => none
  | .cons k name _ _ next => if key = k then some name else next.name? key

theorem name?_eq_none_iff {key : String} {f : Forest} :
    f.name? key = none ↔ f.find? key = none := by
  induction f with
  | nil => simp [name?, find?]
  | cons k name rule below next _ ih =>
      rw [name?, find?]
      split
      · simp
      · exact ih

/-- Where there is a scope, its name stays. -/
theorem name?_alter {key name k : String} {change : Scope → Scope} {f : Forest} (h : f.Ordered) :
    (f.alter key name change).name? k =
      if k = key then some ((f.name? key).getD name) else f.name? k := by
  induction f with
  | nil => simp [alter, name?]
  | cons k' n rule below next _ ih =>
      obtain ⟨hlt, -, hnext⟩ := h
      rw [alter]
      split
      · subst_vars
        by_cases hk : k = k' <;> simp [name?, hk]
      · rename_i hne
        split
        · rename_i hless
          have hfree : next.find? key = none := find?_eq_none_iff.2 fun hmem =>
            String.lt_irrefl _ (String.lt_trans hless (hlt key hmem))
          have hname : next.name? key = none := name?_eq_none_iff.2 hfree
          by_cases hk : k = key <;> simp [name?, hne, hname, hk]
        · rw [name?, ih hnext, name?, name?, if_neg hne]
          by_cases hk : k = k'
          · subst hk
            simp [Ne.symm hne]
          · simp [hk]

end Forest

namespace Scope

/-- The name of the scope to which keys lead down from one that has a name. -/
def nameAt? (name : String) : List String → Scope → Option String
  | [], _ => some name
  | k :: ks, s => (s.below.name? k).bind fun n => (s.below.find? k).bind (nameAt? n ks)

theorem nameAt?_blank (name : String) (ks : List String) :
    blank.nameAt? name ks = if ks = [] then some name else none := by
  cases ks <;> simp [nameAt?, blank, Forest.name?]

/-- Names are added on the way to an inserted rule, where there are none yet. -/
theorem nameAt?_insert {case : PathCase} {rule : Rule} {s : Scope} (h : s.below.Ordered)
    (name : String) (xs ks : List String) :
    (s.insert case rule xs).nameAt? name ks =
      (s.nameAt? name ks).or
        (if ks <+: xs.map case.key then (name :: xs)[ks.length]? else none) := by
  induction xs generalizing s name ks with
  | nil => cases ks <;> simp [insert, nameAt?]
  | cons x xs ih =>
      cases ks with
      | nil => simp [nameAt?]
      | cons k ks =>
          have hname : (s.insert case rule (x :: xs)).below.name? k =
              if k = case.key x then some ((s.below.name? (case.key x)).getD x)
              else s.below.name? k := Forest.name?_alter h
          rw [nameAt?, find?_below_insert h, hname, nameAt?]
          by_cases hk : k = case.key x
          · subst hk
            simp only [if_pos, Option.bind_some, List.map_cons, List.prefix_cons_inj,
              List.length_cons, List.getElem?_cons_succ]
            rw [ih (ordered_below_getD h _)]
            cases hfound : s.below.find? (case.key x) with
            | none =>
                rw [Forest.name?_eq_none_iff.2 hfound, Option.getD_none, Option.getD_none,
                  nameAt?_blank]
                cases ks <;> simp
            | some t =>
                obtain ⟨n, hn⟩ : ∃ n, s.below.name? (case.key x) = some n :=
                  Option.ne_none_iff_exists'.1 fun hnone => by
                    rw [Forest.name?_eq_none_iff.1 hnone] at hfound
                    cases hfound
                rw [hn]
                cases ks <;> simp [nameAt?]
          · rw [if_neg hk, if_neg hk, if_neg (by simp [List.cons_prefix_cons, hk]), Option.or_none]

/-- The names of the scopes of directives are first spellings. -/
theorem nameAt?_insertAll (case : PathCase) (ds : List Directive)
    (h : ∀ d ∈ ds, ∃ cs, Path.components d.path = .ok cs) (keys : List String) :
    (blank.insertAll case ds).nameAt? "" keys =
      if keys = [] then some "" else Directive.spelling? case ds keys := by
  induction ds using List.reverseRecOn with
  | nil => exact nameAt?_blank "" keys
  | append_singleton ds d ih =>
      obtain ⟨cs, hd⟩ := h d (by simp)
      have hsplit : ∀ e ∈ ds, ∃ cs, Path.components e.path = .ok cs :=
        fun e he => h e (List.mem_append_left _ he)
      rw [insertAll_concat ds hd, nameAt?_insert (holds_insertAll case ds hsplit).ordered,
        ih hsplit, Directive.spelling?_concat hd]
      split <;> rfl

end Scope

end AccessPolicy
