import AccessPolicy.Proofs.Outlines
import AccessPolicy.Proofs.Splitting
import AccessPolicy.Proofs.Storage

/-!
# AccessPolicy.Proofs.Listings

What an outline lists.

Directives determine a list of key paths: those that they lead through, with the empty one, in
lexicographic order.  The entry at a key path has the level that its length says, the name that
was spelled first and the rule in force.

1. The scopes of an arena are visited in this order.
2. The scopes of a tree, the root first and every scope before those below it, stand in this
   order as well.

So the loop over an arena writes what the recursion over the tree of the same directives does.
Both write nothing at all if a path has more components than a line can be indented by.

* `IsListing.unique` — there is one such list;
* `Arena.Holds.isListing_visits` — rule 1, `ScopeTree.isListing_census` — rule 2;
* `Arena.Holds.indentable_iff` — when all lines can be written;
* `ArenaBuilder.outline_of_build` — the loop and the recursion agree;
* `ArenaBuilder.outline_is_preorder` — all of this for every arena that directives build;
* `ArenaBuilder.deep_path_has_no_outline` — directives without an outline.
-/

namespace AccessPolicy

namespace Directive

variable {case : PathCase} {ds : List Directive}

/-- What an outline shows of the scope at some keys. -/
def entry (case : PathCase) (ds : List Directive) (keys : List String) : OutlineEntry :=
  ⟨keys.length, if keys = [] then "<root>" else nameOf case ds keys, inForce? case ds keys⟩

/-- The scopes of all paths can be indented in an outline. -/
def Indentable (ds : List Directive) : Prop :=
  ∀ d ∈ ds, ∀ cs, Path.components d.path = .ok cs → 2 * cs.length ≤ maxWidth

instance (ds : List Directive) : Decidable (Indentable ds) :=
  decidable_of_iff
    (∀ d ∈ ds, (Path.components d.path).toOption.all (2 * ·.length ≤ maxWidth) = true) <|
    forall₂_congr fun d _ => by
      cases Path.components d.path <;> simp [Except.toOption]

/-- If so, the scopes on the way to them can be as well. -/
theorem Indentable.length_le (h : Indentable ds) {keys : List String}
    (hleads : keys = [] ∨ Leads case ds keys) : 2 * keys.length ≤ maxWidth := by
  rcases hleads with rfl | ⟨d, hd, whole, hwhole, hpre⟩
  · exact Nat.zero_le _
  · cases hcs : Path.components d.path with
    | error source => simp [keys?, hcs, Except.toOption] at hwhole
    | ok cs =>
        rw [keys?_of_components hcs, Option.some.injEq] at hwhole
        have hle := hpre.length_le
        rw [← hwhole, List.length_map] at hle
        exact (Nat.mul_le_mul_left 2 hle).trans (h d hd cs hcs)

/-- A list has the key paths that directives lead through, in lexicographic order. -/
structure IsListing (case : PathCase) (ds : List Directive) (listing : List (List String)) :
    Prop where
  ascending : listing.Pairwise (· < ·)
  mem_iff : ∀ keys, keys ∈ listing ↔ keys = [] ∨ Leads case ds keys

theorem IsListing.nodup {listing : List (List String)} (h : IsListing case ds listing) :
    listing.Nodup := by
  refine h.ascending.imp fun {keys keys'} hlt heq => ?_
  rw [heq] at hlt
  exact List.lt_irrefl keys' hlt

/-- There is one such list. -/
theorem IsListing.unique {l m : List (List String)} (hl : IsListing case ds l)
    (hm : IsListing case ds m) : l = m := by
  have hperm : l.Perm m :=
    (List.perm_ext_iff_of_nodup hl.nodup hm.nodup).2 fun keys => by rw [hl.mem_iff, hm.mem_iff]
  exact hperm.eq_of_pairwise (fun _ _ _ _ hlt hgt => absurd hgt (List.lt_asymm hlt)) hl.ascending
    hm.ascending

end Directive

/-! ## Arenas -/

namespace Arena.Holds

variable {a : Arena} {case : PathCase} {ds : List Directive} {paths : List (List String)}

/-- The scopes of an arena are visited in the order of their key paths. -/
theorem isListing_visits (h : a.Holds case ds paths) :
    Directive.IsListing case ds ((a.visits h.indexed.descends 0 0).map (keysAt paths)) where
  ascending := List.pairwise_map.2 (h.indexed.pairwise_visits h.indexed.root)
  mem_iff keys := by
    rw [← h.mem_paths, List.mem_map]
    constructor
    · rintro ⟨v, hv, rfl⟩
      obtain ⟨q, hq, -⟩ := h.indexed.exists_of_mem_visits h.indexed.root hv
      rw [keysAt, hq, Option.getD_some]
      exact List.mem_of_getElem? hq
    · intro hmem
      obtain ⟨j, hj⟩ := List.mem_iff_getElem?.1 hmem
      obtain ⟨l, hl⟩ := h.indexed.exists_visit (h.indexed.lt hj)
      exact ⟨_, hl, by rw [keysAt, hj, Option.getD_some]⟩

/-- A visit shows the entry at the key path of the scope. -/
theorem entryAt?_of_mem_visits (h : a.Holds case ds paths) {v : Nat × Nat}
    (hv : v ∈ a.visits h.indexed.descends 0 0) :
    a.entryAt? v = some (Directive.entry case ds (keysAt paths v)) := by
  obtain ⟨i, level⟩ := v
  obtain ⟨q, hq, hlevel⟩ := h.indexed.exists_of_mem_visits h.indexed.root hv
  rw [List.nil_append] at hq
  obtain rfl : level = q.length := hlevel.trans (Nat.zero_add _)
  obtain ⟨node, hnode, hbare⟩ := h.exists_node hq
  have hroot : i = 0 ↔ q = [] := by
    constructor
    · rintro rfl
      exact Option.some.inj (hq.symm.trans h.indexed.root)
    · rintro rfl
      exact h.indexed.position_eq hq h.indexed.root
  have hname := ScopeNode.name_of_bare hbare
  have hrule := ScopeNode.rule?_of_bare hbare
  simp only [entryAt?, hnode, Option.map_some, OutlineEntry.ofNode, keysAt, hq, Option.getD_some,
    Directive.entry, hroot, hname, hrule]

/-- A visited scope is on the level that its keys tell. -/
theorem level_of_mem_visits (h : a.Holds case ds paths) {v : Nat × Nat}
    (hv : v ∈ a.visits h.indexed.descends 0 0) : v.2 = (keysAt paths v).length := by
  obtain ⟨q, hq, hlevel⟩ := h.indexed.exists_of_mem_visits h.indexed.root hv
  rw [List.nil_append] at hq
  rw [hlevel, Nat.zero_add, keysAt, hq, Option.getD_some]

/-- All indentations can be written iff this is so for the ends of the paths. -/
theorem indentable_iff (h : a.Holds case ds paths) :
    (∀ v ∈ a.visits h.indexed.descends 0 0, Narrow v) ↔ Directive.Indentable ds := by
  constructor
  · intro hnarrow d hd cs hcs
    have hkeys := Directive.keys?_of_components hcs case
    obtain ⟨v, hv, hat⟩ := List.mem_map.1
      ((h.isListing_visits.mem_iff (cs.map case.key)).2 (.inr ⟨d, hd, _, hkeys, List.prefix_rfl⟩))
    have hwidth : 2 * v.2 ≤ maxWidth := hnarrow v hv
    rwa [h.level_of_mem_visits hv, hat, List.length_map] at hwidth
  · intro hds v hv
    rw [Narrow, h.level_of_mem_visits hv]
    exact hds.length_le ((h.isListing_visits.mem_iff _).1 (List.mem_map_of_mem hv))

end Arena.Holds

/-! ## Trees -/

namespace Forest

/-- The entries of siblings on a level, each followed by those of the scopes below it. -/
def listing (level : Nat) : Forest → List OutlineEntry
  | .nil => []
  | .cons _ name rule below next =>
      ⟨level, name, rule⟩ :: (below.listing (level + 1) ++ next.listing level)

/-- Forests that wait to be shown are shown one after the other. -/
theorem entries_eq_flatMap (todo : List (Nat × Forest)) :
    entries todo = todo.flatMap fun t => t.2.listing t.1 := by
  induction todo using entries.induct with
  | case1 => rw [entries, List.flatMap_nil]
  | case2 level rest ih => rw [entries, ih, List.flatMap_cons, listing, List.nil_append]
  | case3 level key name rule below next rest ih =>
      rw [entries, ih, List.flatMap_cons, List.flatMap_cons, List.flatMap_cons, listing,
        List.cons_append, List.append_assoc]

/-- A listed scope is that of a sibling, or below one. -/
theorem exists_key_of_mem_census {f : Forest} {keys : List String} {rule : Option Rule}
    (h : (keys, rule) ∈ f.census) : ∃ k ks, keys = k :: ks ∧ k ∈ f.keys := by
  induction f with
  | nil => cases h
  | cons key name rule' below next _ ihNext =>
      rw [census, List.cons_append, List.mem_cons, List.mem_append, List.mem_map] at h
      rcases h with heq | ⟨e, -, heq⟩ | hnext
      · obtain ⟨rfl, -⟩ := Prod.mk.inj heq
        exact ⟨key, [], rfl, List.mem_cons_self⟩
      · obtain ⟨rfl, -⟩ := Prod.mk.inj heq
        exact ⟨key, e.1, rfl, List.mem_cons_self⟩
      · obtain ⟨k, ks, rfl, hk⟩ := ihNext hnext
        exact ⟨k, ks, rfl, List.mem_cons_of_mem _ hk⟩

/-- Ordered scopes are listed in the order of their keys. -/
theorem pairwise_census {f : Forest} (h : f.Ordered) :
    (f.census.map (·.1)).Pairwise (· < ·) := by
  induction f with
  | nil => exact .nil
  | cons key name rule below next ihBelow ihNext =>
      obtain ⟨hless, hbelow, hnext⟩ := h
      have hmap : (below.census.map fun e => (key :: e.1, e.2)).map (·.1) =
          (below.census.map (·.1)).map (key :: ·) := by simp
      have hafter {keys keys' : List String} (ks : List String) (hkeys : keys = key :: ks)
          (hkeys' : keys' ∈ next.census.map (·.1)) : keys < keys' := by
        obtain ⟨⟨_, rule'⟩, hmem, rfl⟩ := List.mem_map.1 hkeys'
        obtain ⟨k, ks', rfl, hk⟩ := exists_key_of_mem_census hmem
        rw [hkeys]
        exact List.cons_lt_cons_iff.2 (.inl (hless k hk))
      rw [census, List.map_append, List.map_cons, hmap]
      refine List.pairwise_append.2 ⟨List.pairwise_cons.2 ⟨?_, ?_⟩, ihNext hnext, ?_⟩
      · intro keys hkeys
        obtain ⟨ks, hks, rfl⟩ := List.mem_map.1 hkeys
        obtain ⟨⟨_, rule'⟩, hmem, rfl⟩ := List.mem_map.1 hks
        obtain ⟨k, ks', rfl, -⟩ := exists_key_of_mem_census hmem
        exact List.cons_lt_cons_iff.2 (.inr ⟨rfl, List.nil_lt_cons _ _⟩)
      · exact List.pairwise_map.2 ((ihBelow hbelow).imp fun hlt =>
          List.cons_lt_cons_iff.2 (.inr ⟨rfl, hlt⟩))
      · intro keys hkeys keys' hkeys'
        rcases List.mem_cons.1 hkeys with rfl | hkeys
        · exact hafter [] rfl hkeys'
        · obtain ⟨ks, -, rfl⟩ := List.mem_map.1 hkeys
          exact hafter ks rfl hkeys'

/-- The entries of ordered siblings have the names and rules of the scopes at the listed keys;
their levels are told by the numbers of keys. -/
theorem listing_eq_census {f : Forest} (h : f.Ordered) (level : Nat) (root : String)
    (rule : Option Rule) :
    f.listing (level + 1) = f.census.map fun e =>
      ⟨level + e.1.length, (Scope.nameAt? root e.1 ⟨rule, f⟩).getD "", e.2⟩ := by
  induction f generalizing level root rule with
  | nil => rfl
  | cons key name rule' below next ihBelow ihNext =>
      obtain ⟨hless, hbelow, hnext⟩ := h
      have hfirst (ks : List String) : Scope.nameAt? root (key :: ks)
          ⟨rule, cons key name rule' below next⟩ = Scope.nameAt? name ks ⟨rule', below⟩ := by
        simp [Scope.nameAt?, name?, find?]
      have hother {k : String} (hk : k ∈ next.keys) (ks : List String) :
          Scope.nameAt? root (k :: ks) ⟨rule, cons key name rule' below next⟩ =
            Scope.nameAt? root (k :: ks) ⟨rule, next⟩ := by
        have hne : k ≠ key := fun heq => String.lt_irrefl _ (heq ▸ hless k hk)
        simp [Scope.nameAt?, name?, find?, hne]
      rw [listing, census, List.map_append, List.map_cons, List.map_map, hfirst,
        ihBelow hbelow (level + 1) name rule', ihNext hnext level root rule, List.cons_append]
      refine congrArg₂ List.cons rfl (congrArg₂ (· ++ ·) ?_ ?_)
      · refine List.map_congr_left fun e _ => ?_
        simp only [Function.comp_apply, hfirst, List.length_cons, OutlineEntry.mk.injEq, and_true]
        omega
      · refine List.map_congr_left fun e he => ?_
        obtain ⟨k, ks, hkeys, hk⟩ := exists_key_of_mem_census he
        rw [hkeys, hother hk]

end Forest

namespace ScopeTree

variable {case : PathCase} {ds : List Directive} {tree : ScopeTree}

/-- The scopes of a tree stand in the order of their keys. -/
theorem isListing_census (h : ofDirectives case ds = .ok tree) :
    Directive.IsListing case ds ([] :: tree.below.census.map (·.1)) where
  ascending := by
    refine List.pairwise_cons.2 ⟨fun keys hkeys => ?_,
      Forest.pairwise_census (holds_of_ofDirectives h).ordered⟩
    obtain ⟨⟨_, rule⟩, hmem, rfl⟩ := List.mem_map.1 hkeys
    obtain ⟨k, ks, rfl, -⟩ := Forest.exists_key_of_mem_census hmem
    exact List.nil_lt_cons k ks
  mem_iff keys := by
    have hcensus := (holds_of_ofDirectives h).isCensus
    constructor
    · intro hmem
      obtain ⟨⟨_, rule⟩, hentry, rfl⟩ : ∃ e ∈ ([], tree.root.rule) :: tree.below.census,
          e.1 = keys := List.mem_map.1 (by simpa using hmem)
      exact ((hcensus.mem_iff _ rule).1 hentry).1
    · intro hleads
      have hentry := (hcensus.mem_iff keys _).2 ⟨hleads, rfl⟩
      exact List.mem_map_of_mem (f := (·.1)) hentry

/-- The entries of a tree are those at the listed keys. -/
theorem entries_eq_map (h : ofDirectives case ds = .ok tree) :
    tree.entries = ([] :: tree.below.census.map (·.1)).map (Directive.entry case ds) := by
  have hholds := holds_of_ofDirectives h
  obtain ⟨⟨hsplit, -⟩, -, hroot⟩ := ofDirectives_eq_ok_iff.1 h
  have hrule : Directive.inForce? case ds [] = some tree.rootRule := (hholds.ruleAt? []).symm
  have hbelow : tree.below.listing 1 =
      (tree.below.census.map (·.1)).map (Directive.entry case ds) := by
    refine (Forest.listing_eq_census hholds.ordered 0 "" (some tree.rootRule)).trans ?_
    rw [List.map_map]
    refine List.map_congr_left fun e he => ?_
    have hentry : e ∈ ([], tree.root.rule) :: tree.below.census := List.mem_cons_of_mem _ he
    obtain ⟨hleads, hinforce⟩ := (hholds.isCensus.mem_iff e.1 e.2).1 hentry
    obtain ⟨k, ks, hkeys, -⟩ := Forest.exists_key_of_mem_census he
    have hne : e.1 ≠ [] := by simp [hkeys]
    have hname : tree.root.nameAt? "" e.1 = some (Directive.nameOf case ds e.1) := by
      rw [hroot, Scope.nameAt?_insertAll case ds hsplit, if_neg hne,
        Directive.spelling?_eq_nameOf hne (hleads.resolve_left hne)]
    have hscope : (⟨some tree.rootRule, tree.root.below⟩ : Scope) = tree.root := rfl
    rw [Function.comp_apply, hscope, hname, Option.getD_some, Directive.entry, if_neg hne,
      hinforce, Nat.zero_add]
  rw [entries, Forest.entries_eq_flatMap, List.flatMap_cons, List.flatMap_nil, List.append_nil,
    hbelow, List.map_cons, Directive.entry, if_pos rfl, hrule]
  rfl

end ScopeTree

/-! ## Lines -/

/-- A padded numeral has ten characters. -/
theorem PolicyBits.length_paddedHexText (b : PolicyBits) : b.paddedHexText.length = 10 := by
  have hdigits : (Text.hexNumeral b.word.toNat).length ≤ 8 :=
    (Nat.length_toDigits_le_iff (by decide) (by decide)).2 b.word.isLt
  simp only [paddedHexText, Text.hexPadded, String.length_append, String.length_ofList,
    List.length_append, List.length_replicate]
  have hprefix : "0x".length = 2 := rfl
  omega

/-- The line of a node: two spaces for each level, its name and its rule. -/
theorem OutlineEntry.line_ofNode (position level : Nat) (node : ScopeNode) :
    (ofNode position level node).line =
      String.ofList (List.replicate (2 * level) ' ') ++
        (if position = 0 then "<root>" else node.name) ++
        (if node.explicit then
          " [" ++ (if node.exactOnly then "exact" else "scope") ++
            "] mask=" ++ node.mask.paddedHexText ++ " policy=" ++ node.policy.paddedHexText
        else "") := by
  rw [line, ofNode, ScopeNode.rule?]
  cases node.explicit with
  | false => rfl
  | true => cases node.exactOnly <;> rfl

namespace Arena

variable {a : Arena}

theorem lineAt_of_getElem? {position : Nat} (level : Nat) {node : ScopeNode}
    (h : a.nodes[position]? = some node) :
    a.lineAt (position, level) = (OutlineEntry.ofNode position level node).line ++ "\n" := by
  rw [lineAt, entryAt?, h]
  rfl

/-- As many visited scopes have a rule as scopes of the arena. -/
theorem countP_visits {content : List String → ScopeNode} {paths : List (List String)}
    (h : a.Indexed content paths) :
    (a.visits h.descends 0 0).countP (fun v => (a.entryAt? v).any (·.rule.isSome)) =
      a.explicitCount := by
  have hrule (v : Nat × Nat) :
      (a.entryAt? v).any (·.rule.isSome) = (a.nodes[v.1]?.any (·.explicit)) := by
    rw [entryAt?]
    cases a.nodes[v.1]? with
    | none => rfl
    | some node =>
        simp only [Option.map_some, Option.any_some, OutlineEntry.ofNode, ScopeNode.rule?]
        cases node.explicit <;> rfl
  calc (a.visits h.descends 0 0).countP (fun v => (a.entryAt? v).any (·.rule.isSome))
    _ = ((a.visits h.descends 0 0).map fun v => a.nodes[v.1]?).countP (·.any (·.explicit)) := by
        simp only [hrule, List.countP_map, Function.comp_def]
    _ = (a.nodes.map some).countP (·.any (·.explicit)) := h.perm_nodes.countP_eq _
    _ = a.explicitCount := by
        rw [List.countP_map, explicitCount, ← List.countP_eq_length_filter]
        rfl

end Arena

/-! ## Any directives -/

namespace ArenaBuilder

variable {case : PathCase} {ds : List Directive} {arena : Arena}

/-- Where an arena is built, so is a tree, and both have the scopes of the directives. -/
theorem exists_of_build (h : ((empty case).applyAll ds).build = .ok arena) :
    ∃ tree paths, ScopeTree.ofDirectives case ds = .ok tree ∧ arena.Holds case ds paths := by
  have hstep := inStep_applyAll case ds
  rw [hstep.build_eq] at h
  cases htree : ((Builder.empty case).applyAll ds).build with
  | error e =>
      rw [htree] at h
      cases h
  | ok tree =>
      rw [htree] at h
      obtain rfl := Except.ok.inj h
      have hadmissible := (ScopeTree.ofDirectives_eq_ok_iff.1 htree).1
      obtain ⟨paths, hholds⟩ := hstep.holds (by
        rw [hstep.error, hstep.clear.2 hadmissible]
        nofun)
      rw [Directive.accepted_of_admissible hadmissible] at hholds
      exact ⟨tree, paths, htree, hholds⟩

/-- Where a tree is built, so is an arena. -/
theorem exists_build_of_tree {tree : ScopeTree} (h : ScopeTree.ofDirectives case ds = .ok tree) :
    ∃ arena, ((empty case).applyAll ds).build = .ok arena := by
  have hbuild := (inStep_applyAll case ds).build_eq
  have htree : ((Builder.empty case).applyAll ds).build = .ok tree := h
  rw [htree] at hbuild
  exact ⟨_, hbuild⟩

/-- Both have as many scopes. -/
theorem nodeCount_of_build (h : ((empty case).applyAll ds).build = .ok arena) {tree : ScopeTree}
    (htree : ScopeTree.ofDirectives case ds = .ok tree) : arena.nodeCount = tree.nodeCount := by
  obtain ⟨-, paths, -, hholds⟩ := exists_of_build h
  rw [hholds.complete.nodeCount, ScopeTree.nodeCount_eq htree]

/-- The loop over an arena shows what the recursion over the tree shows. -/
theorem outline_of_build (h : ((empty case).applyAll ds).build = .ok arena) {tree : ScopeTree}
    (htree : ScopeTree.ofDirectives case ds = .ok tree) : arena.outline = tree.outline := by
  obtain ⟨-, paths, -, hholds⟩ := exists_of_build h
  have hd := hholds.indexed.descends
  have hroot := hholds.indexed.lt hholds.indexed.root
  have hentries : tree.entries =
      (arena.visits hd 0 0).map fun v => Directive.entry case ds (Arena.keysAt paths v) := by
    rw [ScopeTree.entries_eq_map htree,
      ← hholds.isListing_visits.unique (ScopeTree.isListing_census htree), List.map_map]
    rfl
  have hline : ∀ v ∈ arena.visits hd 0 0, arena.lineAt v =
      (Directive.entry case ds (Arena.keysAt paths v)).line ++ "\n" := by
    intro v hv
    rw [Arena.lineAt, hholds.entryAt?_of_mem_visits hv]
    rfl
  have hfits : tree.entries.all (·.fits) = true ↔
      ∀ v ∈ arena.visits hd 0 0, Arena.Narrow v := by
    rw [hentries, List.all_map, List.all_eq_true]
    refine forall₂_congr fun v hv => ?_
    rw [Arena.Narrow, hholds.level_of_mem_visits hv]
    exact decide_eq_true_iff
  by_cases hnarrow : ∀ v ∈ arena.visits hd 0 0, Arena.Narrow v
  · rw [Arena.outline_of_narrow hd hroot hnarrow, Arena.rendering_eq_join,
      List.map_congr_left hline, ScopeTree.outline, if_pos (hfits.2 hnarrow), hentries,
      List.map_map]
    rfl
  · rw [Arena.outline_of_wide hd hroot (by simpa using hnarrow), ScopeTree.outline,
      if_neg fun hall => hnarrow (hfits.1 hall)]

/-- If the scope of a path cannot be indented, the loop gets to a scope that it cannot show. -/
theorem outline_eq_none (h : ((empty case).applyAll ds).build = .ok arena)
    (hds : ¬ Directive.Indentable ds) :
    (∃ turns sketch, turns < arena.nodeCount ∧
      arena.after turns Arena.blankSketch = some sketch ∧ arena.turn sketch = none) ∧
    arena.outline = none := by
  obtain ⟨-, paths, -, hholds⟩ := exists_of_build h
  have hd := hholds.indexed.descends
  have hroot := hholds.indexed.lt hholds.indexed.root
  have hwide : ∃ v ∈ arena.visits hd 0 0, ¬ Arena.Narrow v := by
    simpa using mt hholds.indentable_iff.1 hds
  exact ⟨hholds.indexed.length_visits ▸ Arena.exists_turn_eq_none hd hroot hwide,
    Arena.outline_of_wide hd hroot hwide⟩

/-- **Outlines**: for every arena that directives build, there is a text that the recursion
writes: the line of a scope, and then the outlines of its children on the next level, which
ascend by the bytes of their keys.  It is made of one line for each scope, each of them once, and
as many lines show a rule as there are rules.

If the scopes of all paths can be indented, the loop takes one turn for each scope; then the
stack is empty, and the loop has written this text.  If not, the loop gets to a scope that it
cannot show, and nothing comes out.  It is the same with the tree of the same directives. -/
theorem outline_is_preorder (h : ((empty case).applyAll ds).build = .ok arena) :
    ∃ hd : arena.Descends,
      (∀ position level node, arena.nodes[position]? = some node →
        arena.rendering hd position level =
            String.ofList (List.replicate (2 * level) ' ') ++
            (if position = 0 then "<root>" else node.name) ++
            (if node.explicit then
              " [" ++ (if node.exactOnly then "exact" else "scope") ++
                "] mask=" ++ node.mask.paddedHexText ++ " policy=" ++ node.policy.paddedHexText
            else "") ++ "\n" ++
            String.join (node.children.map fun child =>
              arena.rendering hd child.2 (level + 1)) ∧
          node.mask.paddedHexText.length = 10 ∧ node.policy.paddedHexText.length = 10 ∧
          node.children.Pairwise fun c c' => Text.encodeUtf8 c.1 < Text.encodeUtf8 c'.1) ∧
      arena.rendering hd 0 0 = String.join ((arena.visits hd 0 0).map arena.lineAt) ∧
      ((arena.visits hd 0 0).map (·.1)).Perm (List.range arena.nodeCount) ∧
      (arena.visits hd 0 0).countP (fun v => (arena.entryAt? v).any (·.rule.isSome)) =
        arena.explicitCount ∧
      (Directive.Indentable ds →
        arena.after arena.nodeCount Arena.blankSketch = some ⟨arena.rendering hd 0 0, []⟩ ∧
        arena.outline = some (arena.rendering hd 0 0)) ∧
      (¬ Directive.Indentable ds →
        (∃ turns sketch, turns < arena.nodeCount ∧
          arena.after turns Arena.blankSketch = some sketch ∧ arena.turn sketch = none) ∧
        arena.outline = none) ∧
      ∀ tree, ScopeTree.ofDirectives case ds = .ok tree → arena.outline = tree.outline := by
  obtain ⟨-, paths, -, hholds⟩ := exists_of_build h
  have hd := hholds.indexed.descends
  have hroot := hholds.indexed.lt hholds.indexed.root
  refine ⟨hd, fun position level node hnode => ⟨?_,
    node.mask.length_paddedHexText, node.policy.length_paddedHexText, ?_⟩,
    Arena.rendering_eq_join hd 0 0, hholds.indexed.perm_visits,
    Arena.countP_visits hholds.indexed, fun hds => ?_, outline_eq_none h,
    fun tree => outline_of_build h⟩
  · have hchildren : arena.children position = node.children := by
      rw [Arena.children, hnode, Option.elim_some]
    rw [Arena.rendering_eq, Arena.lineAt_of_getElem? level hnode, OutlineEntry.line_ofNode,
      hchildren]
  · have hascending := hholds.wellFormed.ascending position
    rwa [Arena.children, hnode, Option.elim_some] at hascending
  · have hnarrow := hholds.indentable_iff.2 hds
    exact ⟨hholds.indexed.length_visits ▸ Arena.after_visits hd hroot hnarrow,
      Arena.outline_of_narrow hd hroot hnarrow⟩

/-- The outline of the sample directives. -/
def sampleOutline : String :=
  "<root> [scope] mask=0x00000000 policy=0x00000001\n" ++
  "  src\n" ++
  "    gen [scope] mask=0xffffffff policy=0x00000002\n" ++
  "      tool [exact] mask=0x00000000 policy=0x00000004\n"

/-- The sample directives build an arena with this outline, in which each scope is visited
once. -/
theorem outline_is_preorder_sample :
    ∃ arena hd, ((empty .insensitive).applyAll ScopeTree.sampleDirectives).build = .ok arena ∧
      arena.outline = some sampleOutline ∧ arena.rendering hd 0 0 = sampleOutline ∧
      ((arena.visits hd 0 0).map (·.1)).Perm (List.range arena.nodeCount) := by
  have hsample : ScopeTree.sampleTree.outline = some sampleOutline := by decide +kernel
  have hindentable : Directive.Indentable ScopeTree.sampleDirectives := by decide +kernel
  obtain ⟨arena, harena⟩ := exists_build_of_tree ScopeTree.ofDirectives_sampleDirectives
  obtain ⟨hd, -, -, hvisits, -, hnarrow, -, htree⟩ := outline_is_preorder harena
  have houtline := (htree _ ScopeTree.ofDirectives_sampleDirectives).trans hsample
  have hrendering := (hnarrow hindentable).2
  exact ⟨arena, hd, harena, houtline, Option.some.inj (hrendering.symm.trans houtline), hvisits⟩

/-! ## A path that is too deep -/

/-- A rule for the root, and one for a path of as many components as given. -/
def deepDirectives (n : Nat) : List Directive :=
  [⟨"/", ⟨.maskAll, .allowRead, .scope⟩⟩,
    ⟨Path.spell (List.replicate n ("/", "a")) "", ⟨.maskNone, .allowWrite, .scope⟩⟩]

theorem components_deepDirectives {n : Nat} (hpos : 0 < n) (hle : n ≤ maxDepth) :
    Path.components (Path.spell (List.replicate n ("/", "a")) "") = .ok (List.replicate n "a") := by
  have hpart {part : String × String} (h : part ∈ List.replicate n ("/", "a")) :
      part = ("/", "a") :=
    List.eq_of_mem_replicate h
  have hfull : Path.spell (List.replicate n ("/", "a")) "" ≠ "" := by
    obtain ⟨m, rfl⟩ := Nat.exists_eq_add_of_lt hpos
    simp [List.replicate_succ, Path.spell]
  rw [Path.components_spell (fun part h => ?_) (fun part h => ?_) (by decide) hfull
    (by rw [List.length_replicate]; exact hle), List.map_replicate]
  · rw [hpart h]
    decide
  · rw [hpart h]
    decide

/-- A path of 32768 components is taken, and an arena is built, but its outline cannot be
written: what the recursion writes does not come out. -/
theorem deep_path_has_no_outline :
    ∃ arena, ((empty .sensitive).applyAll (deepDirectives 32768)).build = .ok arena ∧
      arena.outline = none ∧ ∀ hd, arena.outline ≠ some (arena.rendering hd 0 0) := by
  have hroot : Path.components "/" = .ok [] := rfl
  have hdeep := components_deepDirectives (n := 32768) (by decide) (by decide)
  have hwide : ¬ Directive.Indentable (deepDirectives 32768) := by
    intro hds
    have hwidth := hds _ (List.mem_cons_of_mem _ List.mem_cons_self) _ hdeep
    rw [List.length_replicate] at hwidth
    exact absurd hwidth (by decide)
  have hlength : (deepDirectives 32768).length ≤ maxDepth := show 2 ≤ maxDepth by decide
  obtain ⟨tree, htree⟩ :
      ∃ tree, ScopeTree.ofDirectives .sensitive (deepDirectives 32768) = .ok tree :=
    ScopeTree.exists_ofDirectives_eq_ok_iff.2
      ⟨List.forall_mem_cons.2 ⟨⟨_, hroot⟩, List.forall_mem_singleton.2 ⟨_, hdeep⟩⟩,
        ⟨_, List.mem_cons_self, hroot⟩, Directive.fits_of_length_le .sensitive hlength⟩
  obtain ⟨arena, harena⟩ := exists_build_of_tree htree
  have houtline := (outline_eq_none harena hwide).2
  exact ⟨arena, harena, houtline, fun hd heq => by rw [houtline] at heq; cases heq⟩

end ArenaBuilder

end AccessPolicy
