import AccessPolicy.Scope.Arena
import Mathlib.Data.List.Infix
import Mathlib.Data.List.Nodup

/-!
# AccessPolicy.Proofs.Indexing

The nodes of an arena by the keys that lead to them.

An arena is *indexed* by a list of key paths, one for each position: the first is empty,
no two are equal, and a node has a child under a key at the position of its own path with
that key.  What else a node says is told by its path.

1. A scope that is added below another one gets the next position, and its path is new.
2. To walk down a path and to add what is missing adds the prefixes of the path, as far as
   there is room.
3. A rule that is set changes what is said of one path.

* `Indexed.grow` — rule 1, `Indexed.reach` — rule 2, `Indexed.setRule` — rule 3;
* `Indexed.walk?_eq_some_iff` — halving from node to node leads to the position of the path;
* `exists_parent`, `parent_unique` — who is the parent of whom;
* `exists_trail`, `trail_unique` — one way leads down to each position.
-/

namespace AccessPolicy

/-- A node without its children. -/
def ScopeNode.bare (node : ScopeNode) : ScopeNode := { node with children := [] }

namespace Arena

/-! ## One step of building -/

section

variable {a : Arena} {position place : Nat} {x : String} {rule : Rule}

theorem case_grow : (a.grow position place x).case = a.case := rfl

/-- One node more. -/
theorem length_grow : (a.grow position place x).nodes.length = a.nodes.length + 1 := by
  simp [grow]

/-- A node that is there stays, but for its children. -/
theorem getElem?_grow_of_lt {i : Nat} (h : i < a.nodes.length) :
    (a.grow position place x).nodes[i]? =
      a.nodes[i]?.map fun node =>
        if position = i then
          { node with
            children :=
              node.children.take place ++
                (a.case.key x, a.nodes.length) :: node.children.drop place }
        else node := by
  rw [grow, List.getElem?_append_left (by simpa using h), List.getElem?_modify]
  rfl

theorem getElem?_grow_length :
    (a.grow position place x).nodes[a.nodes.length]? = some (.routing x) := by
  rw [grow, List.getElem?_append_right (by simp), List.length_modify, Nat.sub_self]
  rfl

/-- The new node is the only one that differs in more than its children. -/
theorem bare_grow_of_lt {i : Nat} (h : i < a.nodes.length) :
    (a.grow position place x).nodes[i]?.map ScopeNode.bare = a.nodes[i]?.map ScopeNode.bare := by
  rw [getElem?_grow_of_lt h, Option.map_map]
  congr 1
  funext node
  rw [Function.comp_apply]
  split <;> rfl

/-- The new node is a child of the one below which it was added. -/
theorem children_grow (h : position < a.nodes.length) (i : Nat) :
    (a.grow position place x).children i =
      if i = position then
        (a.children position).take place ++
          (a.case.key x, a.nodes.length) :: (a.children position).drop place
      else a.children i := by
  rcases Nat.lt_trichotomy i a.nodes.length with hlt | rfl | hgt
  · rw [children, getElem?_grow_of_lt hlt]
    split
    · subst_vars
      simp [children, hlt]
    · rename_i hne
      simp [children, hlt, Ne.symm hne]
  · rw [children, getElem?_grow_length, if_neg (by omega), children,
      List.getElem?_eq_none (Nat.le_refl _)]
    rfl
  · rw [if_neg (by omega), children, children, List.getElem?_eq_none (by rw [length_grow]; omega),
      List.getElem?_eq_none (by omega)]

theorem length_setRule : (a.setRule position rule).nodes.length = a.nodes.length := by
  simp [setRule]

theorem bare_setRule (i : Nat) :
    (a.setRule position rule).nodes[i]?.map ScopeNode.bare =
      a.nodes[i]?.map fun node =>
        if position = i then node.bare.withRule rule else node.bare := by
  rw [setRule, List.getElem?_modify]
  cases a.nodes[i]? with
  | none => rfl
  | some node =>
      simp only [Option.map_eq_map, Option.map_some]
      split <;> rfl

/-- A rule that is set changes no children. -/
theorem children_setRule (i : Nat) : (a.setRule position rule).children i = a.children i := by
  rw [children, children, setRule, List.getElem?_modify]
  cases a.nodes[i]? with
  | none => rfl
  | some node =>
      simp only [Option.map_eq_map, Option.map_some, Option.elim_some]
      split <;> rfl

end

/-! ## Key paths -/

/-- A way down from the root, by keys and positions, to the scope at a position. -/
inductive Trail (a : Arena) : List (String × Nat) → Nat → Prop where
  | root : Trail a [] 0
  | child {steps : List (String × Nat)} {i j : Nat} {k : String} (h : Trail a steps i)
      (hchild : (k, j) ∈ a.children i) : Trail a (steps ++ [(k, j)]) j

/-- The key paths of an arena, position by position.  What a scope is, apart from its
children, `content` says of its key path. -/
structure Indexed (a : Arena) (content : List String → ScopeNode) (paths : List (List String)) :
    Prop where
  length : paths.length = a.nodes.length
  root : paths[0]? = some []
  nodup : paths.Nodup
  parent : ∀ {j : Nat} {p : List String} {k : String}, paths[j]? = some (p ++ [k]) →
    ∃ i, i < j ∧ paths[i]? = some p
  ascending : ∀ i, (a.children i).Pairwise (·.1 < ·.1)
  mem_children : ∀ {i : Nat} {p : List String}, paths[i]? = some p →
    ∀ k j, (k, j) ∈ a.children i ↔ paths[j]? = some (p ++ [k])
  content : ∀ {i : Nat} {p : List String}, paths[i]? = some p →
    a.nodes[i]?.map ScopeNode.bare = some (content p)

namespace Indexed

variable {a : Arena} {content content' : List String → ScopeNode} {paths : List (List String)}
  {position : Nat} {p : List String}

theorem lt (h : a.Indexed content paths) (hp : paths[position]? = some p) :
    position < a.nodes.length :=
  h.length ▸ (List.getElem?_eq_some_iff.1 hp).1

/-- A key path is that of one position. -/
theorem position_eq (h : a.Indexed content paths) {i j : Nat} (hi : paths[i]? = some p)
    (hj : paths[j]? = some p) : i = j :=
  (List.getElem?_inj (List.getElem?_eq_some_iff.1 hi).1 h.nodup).1 (hi.trans hj.symm)

/-- Only listed positions have children, and these are listed as well. -/
theorem of_mem_children (h : a.Indexed content paths) {i j : Nat} {k : String}
    (hchild : (k, j) ∈ a.children i) :
    ∃ p, paths[i]? = some p ∧ paths[j]? = some (p ++ [k]) := by
  have hlt : i < paths.length := by
    rw [h.length]
    by_contra hge
    rw [children, List.getElem?_eq_none (Nat.le_of_not_lt hge)] at hchild
    cases hchild
  have hp := List.getElem?_eq_getElem hlt
  exact ⟨_, hp, (h.mem_children hp k j).1 hchild⟩

/-- With a key path, its prefixes are listed. -/
theorem mem_of_shorter (h : a.Indexed content paths) {q : List String} (hq : q ∈ paths)
    (hpre : p <+: q) : p ∈ paths := by
  induction q using List.reverseRecOn with
  | nil => rwa [List.prefix_nil.1 hpre]
  | append_singleton q k ih =>
      rcases List.prefix_concat_iff.1 hpre with rfl | hpre
      · exact hq
      · obtain ⟨j, hj⟩ := List.mem_iff_getElem?.1 hq
        obtain ⟨i, -, hi⟩ := h.parent hj
        exact ih (List.mem_of_getElem? hi) hpre

/-- Only what is said of listed key paths matters. -/
theorem congr (h : a.Indexed content paths) (hsame : ∀ q ∈ paths, content' q = content q) :
    a.Indexed content' paths :=
  { h with content := fun hp => by rw [h.content hp, hsame _ (List.mem_of_getElem? hp)] }

/-- A scope with a place for its key is new. -/
theorem not_mem_of_isPlace (h : a.Indexed content paths) (hp : paths[position]? = some p)
    {key : String} {place : Nat} (hplace : IsPlace (a.children position) key place) :
    p ++ [key] ∉ paths := by
  intro hmem
  obtain ⟨j, hj⟩ := List.mem_iff_getElem?.1 hmem
  exact hplace.not_mem j ((h.mem_children hp key j).2 hj)

theorem getElem?_concat_iff {q q' : List String} {i : Nat} :
    (paths ++ [q])[i]? = some q' ↔ paths[i]? = some q' ∨ i = paths.length ∧ q' = q := by
  rcases Nat.lt_trichotomy i paths.length with hlt | rfl | hgt
  · rw [List.getElem?_append_left hlt]
    simp [Nat.ne_of_lt hlt]
  · simp [eq_comm]
  · have hlength : (paths ++ [q]).length ≤ i := by rw [List.length_append]; exact hgt
    rw [List.getElem?_eq_none hlength, List.getElem?_eq_none (Nat.le_of_lt hgt)]
    simp [Nat.ne_of_gt hgt]

theorem mem_take_cons_drop {l : List (String × Nat)} {c c' : String × Nat} {place : Nat} :
    c' ∈ l.take place ++ c :: l.drop place ↔ c' = c ∨ c' ∈ l := by
  rw [List.mem_append, List.mem_cons, or_left_comm, ← List.mem_append, List.take_append_drop]

/-- The children of an arena to which a scope is added. -/
theorem mem_children_grow (h : a.Indexed content paths) (hp : paths[position]? = some p)
    {x : String} {place : Nat} (hplace : IsPlace (a.children position) (a.case.key x) place)
    {i : Nat} {q : List String} (hat : (paths ++ [p ++ [a.case.key x]])[i]? = some q)
    (k : String) (j : Nat) :
    (k, j) ∈ (a.grow position place x).children i ↔
      (paths ++ [p ++ [a.case.key x]])[j]? = some (q ++ [k]) := by
  rw [children_grow (h.lt hp), getElem?_concat_iff]
  rcases getElem?_concat_iff.1 hat with hq | ⟨rfl, rfl⟩
  · -- Where something was before, the only new child is the one that was added.
    rw [← h.mem_children hq]
    split
    · subst_vars
      obtain rfl := Option.some.inj (hp.symm.trans hq)
      rw [mem_take_cons_drop, or_comm, h.length]
      simp [and_comm]
    · rename_i hne
      refine (or_iff_left ?_).symm
      rintro ⟨-, heq⟩
      obtain ⟨rfl, -⟩ := List.append_inj' heq rfl
      exact hne (h.position_eq hq hp)
  · -- The new scope has no children, and its path is no prefix of one that was listed.
    rw [if_neg (by have := h.length; have := h.lt hp; omega)]
    refine iff_of_false ?_ ?_
    · simp [children, h.length]
    · rintro (hchild | ⟨-, heq⟩)
      · obtain ⟨i, -, hi⟩ := h.parent hchild
        exact h.not_mem_of_isPlace hp hplace (List.mem_of_getElem? hi)
      · simpa using congrArg List.length heq

/-- A scope that is added has the last position and a key path of its own. -/
theorem grow (h : a.Indexed content paths) (hp : paths[position]? = some p) {x : String}
    {place : Nat} (hplace : IsPlace (a.children position) (a.case.key x) place)
    (hcontent : content (p ++ [a.case.key x]) = .routing x) :
    (a.grow position place x).Indexed content (paths ++ [p ++ [a.case.key x]]) := by
  have hnew := h.not_mem_of_isPlace hp hplace
  have hlt := h.lt hp
  constructor
  case length => rw [length_grow, List.length_append, h.length, List.length_singleton]
  case root => exact getElem?_concat_iff.2 (.inl h.root)
  case nodup =>
    rw [← List.concat_eq_append]
    exact h.nodup.concat hnew
  case parent =>
    intro j q k hat
    rcases getElem?_concat_iff.1 hat with hq | ⟨rfl, heq⟩
    · obtain ⟨i, hi, hparent⟩ := h.parent hq
      exact ⟨i, hi, getElem?_concat_iff.2 (.inl hparent)⟩
    · obtain ⟨rfl, -⟩ := List.append_inj' heq rfl
      exact ⟨position, h.length ▸ hlt, getElem?_concat_iff.2 (.inl hp)⟩
  case ascending =>
    intro i
    rw [children_grow hlt]
    split
    · exact hplace.ascending (h.ascending _) _
    · exact h.ascending i
  case mem_children => exact h.mem_children_grow hp hplace
  case content =>
    intro i q hat
    rcases getElem?_concat_iff.1 hat with hq | ⟨rfl, rfl⟩
    · rw [bare_grow_of_lt (h.lt hq), h.content hq]
    · rw [h.length, getElem?_grow_length, hcontent]
      rfl

theorem exists_prefix_cons_iff {f : String → String} {q : List String} {x : String}
    {xs : List String} :
    (∃ ys, ys <+: x :: xs ∧ q = p ++ ys.map f) ↔
      q = p ∨ ∃ ys, ys <+: xs ∧ q = p ++ [f x] ++ ys.map f := by
  constructor
  · rintro ⟨ys, hys, rfl⟩
    rcases List.prefix_cons_iff.1 hys with rfl | ⟨zs, rfl, hzs⟩
    · exact .inl (List.append_nil p)
    · exact .inr ⟨zs, hzs, by simp⟩
  · rintro (rfl | ⟨ys, hys, rfl⟩)
    · exact ⟨[], List.nil_prefix, by simp⟩
    · exact ⟨x :: ys, (List.prefix_cons_inj x).2 hys, by simp⟩

/-- An arena after a way down from `p`: the scopes on the way to the end of `ys` are there, and no
others are new. -/
structure Reached (a : Arena) (content : List String → ScopeNode) (paths : List (List String))
    (p ys : List String) (a' : Arena) (paths' : List (List String)) : Prop where
  case_eq : a'.case = a.case
  indexed : a'.Indexed content paths'
  mem_paths : ∀ q, q ∈ paths' ↔ q ∈ paths ∨ ∃ zs, zs <+: ys ∧ q = p ++ zs.map a.case.key
  room : a'.nodes.length ≤ maxNodes

theorem reached_nil (h : a.Indexed content paths) (hp : paths[position]? = some p)
    (hroom : a.nodes.length ≤ maxNodes) : Reached a content paths p [] a paths := by
  refine ⟨rfl, h, fun q => (or_iff_left_of_imp ?_).symm, hroom⟩
  rintro ⟨zs, hzs, rfl⟩
  rw [List.prefix_nil.1 hzs, List.map_nil, List.append_nil]
  exact List.mem_of_getElem? hp

/-- A way that goes on below a child which is there. -/
theorem Reached.below {x : String} {ys : List String} {a' : Arena} {paths' : List (List String)}
    (h : Reached a content paths (p ++ [a.case.key x]) ys a' paths') (hp : p ∈ paths) :
    Reached a content paths p (x :: ys) a' paths' := by
  refine ⟨h.case_eq, h.indexed, fun q => ?_, h.room⟩
  rw [h.mem_paths, exists_prefix_cons_iff, ← or_assoc, or_iff_left_of_imp fun hq : q = p => hq ▸ hp]

/-- A way that goes on below a child which was added. -/
theorem Reached.below_grown {x : String} {place : Nat} {ys : List String} {a' : Arena}
    {paths' : List (List String)}
    (h : Reached (a.grow position place x) content (paths ++ [p ++ [a.case.key x]])
      (p ++ [a.case.key x]) ys a' paths') (hp : p ∈ paths) :
    Reached a content paths p (x :: ys) a' paths' := by
  refine ⟨h.case_eq, h.indexed, fun q => ?_, h.room⟩
  have hfirst : q = p ++ [a.case.key x] →
      ∃ zs, zs <+: ys ∧ q = p ++ [a.case.key x] ++ zs.map a.case.key :=
    fun hq => ⟨[], List.nil_prefix, by rw [hq, List.map_nil, List.append_nil]⟩
  rw [h.mem_paths, case_grow, exists_prefix_cons_iff, List.mem_append, List.mem_singleton, or_assoc,
    or_iff_right_of_imp hfirst, ← or_assoc, or_iff_left_of_imp fun hq : q = p => hq ▸ hp]

/-- Down a path, the scopes that are missing are added, and no others.  Either the end of the
path is reached, or the way ends, in a full arena, above a scope that is missing. -/
theorem reach (h : a.Indexed content paths) (hp : paths[position]? = some p)
    (hroom : a.nodes.length ≤ maxNodes) (xs : List String)
    (hcontent : ∀ ys x, ys ++ [x] <+: xs → p ++ (ys ++ [x]).map a.case.key ∉ paths →
      content (p ++ (ys ++ [x]).map a.case.key) = .routing x) :
    (∃ last grown paths', a.reach position xs = (.ok last, grown) ∧
      Reached a content paths p xs grown paths' ∧
      paths'[last]? = some (p ++ xs.map a.case.key)) ∨
    ∃ ys x grown paths', ys ++ [x] <+: xs ∧ a.reach position xs = (.error .noRoom, grown) ∧
      Reached a content paths p ys grown paths' ∧ grown.nodes.length = maxNodes ∧
      p ++ (ys ++ [x]).map a.case.key ∉ paths' := by
  have hmem : p ∈ paths := List.mem_of_getElem? hp
  induction xs generalizing a paths position p with
  | nil =>
      exact .inl ⟨position, a, paths, rfl, h.reached_nil hp hroom, by simpa using hp⟩
  | cons x xs ih =>
      have hrest (ys : List String) (y : String) (hys : ys ++ [y] <+: xs)
          (hnot : p ++ [a.case.key x] ++ (ys ++ [y]).map a.case.key ∉ paths) :
          content (p ++ [a.case.key x] ++ (ys ++ [y]).map a.case.key) = .routing y := by
        rw [← List.append_cons, ← List.map_cons] at hnot ⊢
        exact hcontent (x :: ys) y ((List.prefix_cons_inj x).2 hys) hnot
      rw [Arena.reach]
      cases hseek : seek (a.children position) (a.case.key x) with
      | ok child =>
          have hchild : paths[child]? = some (p ++ [a.case.key x]) :=
            (h.mem_children hp _ _).1 ((seek_eq_ok_iff (h.ascending position)).1 hseek)
          rcases ih h hchild hroom hrest (List.mem_of_getElem? hchild) with
            ⟨last, grown, paths', hreach, hreached, hlast⟩ |
            ⟨ys, y, grown, paths', hpre, hreach, hreached, hfull, hmissing⟩
          · exact .inl ⟨last, grown, paths', hreach, hreached.below hmem, by simpa using hlast⟩
          · exact .inr ⟨x :: ys, y, grown, paths', (List.prefix_cons_inj x).2 hpre, hreach,
              hreached.below hmem, hfull, by simpa using hmissing⟩
      | error place =>
          have hplace := isPlace_of_seek (h.ascending position) hseek
          have hnew := h.not_mem_of_isPlace hp hplace
          by_cases hlt : a.nodes.length < maxNodes
          · have hgrown := h.grow hp hplace (hcontent [] x (by simp) (by simpa using hnew))
            have hend : (paths ++ [p ++ [a.case.key x]])[a.nodes.length]? =
                some (p ++ [a.case.key x]) := getElem?_concat_iff.2 (.inr ⟨h.length.symm, rfl⟩)
            simp only [if_pos hlt]
            rcases ih hgrown hend (by rw [length_grow]; exact hlt)
                (fun ys y hys hnot => hrest ys y hys fun hq => hnot (List.mem_append_left _ hq))
                (List.mem_of_getElem? hend) with
              ⟨last, grown, paths', hreach, hreached, hlast⟩ |
              ⟨ys, y, grown, paths', hpre, hreach, hreached, hfull, hmissing⟩
            · exact .inl ⟨last, grown, paths', hreach, hreached.below_grown hmem,
                by simpa [case_grow] using hlast⟩
            · exact .inr ⟨x :: ys, y, grown, paths', (List.prefix_cons_inj x).2 hpre, hreach,
                hreached.below_grown hmem, hfull, by simpa [case_grow] using hmissing⟩
          · simp only [if_neg hlt]
            exact .inr ⟨[], x, a, paths, by simp, rfl, h.reached_nil hp hroom,
              Nat.le_antisymm hroom (Nat.le_of_not_lt hlt), by simpa using hnew⟩

/-- A rule that is set changes what is said of its key path alone. -/
theorem setRule (h : a.Indexed content paths) (hp : paths[position]? = some p) (rule : Rule)
    (hself : content' p = (content p).withRule rule)
    (hother : ∀ q ∈ paths, q ≠ p → content' q = content q) :
    (a.setRule position rule).Indexed content' paths := by
  constructor
  case length => rw [h.length, length_setRule]
  case root => exact h.root
  case nodup => exact h.nodup
  case parent => exact h.parent
  case ascending => exact fun i => by rw [children_setRule]; exact h.ascending i
  case mem_children => exact fun hq k j => by rw [children_setRule]; exact h.mem_children hq k j
  case content =>
    intro i q hq
    have hbare := h.content hq
    rw [bare_setRule]
    obtain ⟨node, hnode, hbare⟩ := Option.map_eq_some_iff.1 hbare
    rw [hnode, Option.map_some, hbare]
    split
    · subst_vars
      obtain rfl := Option.some.inj (hp.symm.trans hq)
      rw [hself]
    · rename_i hne
      rw [hother q (List.mem_of_getElem? hq)]
      rintro rfl
      exact hne (h.position_eq hp hq)

/-! ## Walking -/

theorem child?_eq_some_iff (h : a.Indexed content paths) (hp : paths[position]? = some p)
    {x : String} {child : Nat} :
    a.child? position x = some child ↔ paths[child]? = some (p ++ [a.case.key x]) := by
  rw [← h.mem_children hp, ← seek_eq_ok_iff (h.ascending position), child?]
  cases seek (a.children position) (a.case.key x) <;> simp [Except.toOption]

/-- To walk from node to node leads to the position of the key path. -/
theorem walk?_eq_some_iff (h : a.Indexed content paths) (hp : paths[position]? = some p)
    {xs : List String} {last : Nat} :
    a.walk? position xs = some last ↔ paths[last]? = some (p ++ xs.map a.case.key) := by
  induction xs generalizing position p with
  | nil =>
      rw [walk?, List.map_nil, List.append_nil, Option.some.injEq]
      exact ⟨fun heq => heq ▸ hp, h.position_eq hp⟩
  | cons x xs ih =>
      rw [walk?, Option.bind_eq_some_iff, List.map_cons, List.append_cons]
      constructor
      · rintro ⟨child, hchild, hwalk⟩
        exact (ih ((h.child?_eq_some_iff hp).1 hchild)).1 hwalk
      · intro hlast
        obtain ⟨child, hchild⟩ := List.mem_iff_getElem?.1
          (h.mem_of_shorter (List.mem_of_getElem? hlast) (List.prefix_append _ _))
        exact ⟨child, (h.child?_eq_some_iff hp).2 hchild, (ih hchild).2 hlast⟩

/-! ## Ways down -/

/-- Children come after their parents. -/
theorem later (h : a.Indexed content paths) {i j : Nat} {k : String}
    (hchild : (k, j) ∈ a.children i) : i < j ∧ j < a.nodes.length := by
  obtain ⟨p, hi, hj⟩ := h.of_mem_children hchild
  obtain ⟨i', hlt, hi'⟩ := h.parent hj
  exact ⟨h.position_eq hi' hi ▸ hlt, h.lt hj⟩

/-- Every position but the first is that of a child. -/
theorem exists_parent (h : a.Indexed content paths) {j : Nat} (hpos : 0 < j)
    (hlt : j < a.nodes.length) : ∃ i k, (k, j) ∈ a.children i := by
  obtain ⟨q, hj⟩ : ∃ q, paths[j]? = some q := ⟨_, List.getElem?_eq_getElem (h.length ▸ hlt)⟩
  rcases List.eq_nil_or_concat' q with rfl | ⟨p, k, rfl⟩
  · exact absurd (h.position_eq hj h.root) (Nat.ne_of_gt hpos)
  · obtain ⟨i, -, hi⟩ := h.parent hj
    exact ⟨i, k, (h.mem_children hi k j).2 hj⟩

/-- No position is that of two children. -/
theorem parent_unique (h : a.Indexed content paths) {i i' j : Nat} {k k' : String}
    (hchild : (k, j) ∈ a.children i) (hchild' : (k', j) ∈ a.children i') : i = i' ∧ k = k' := by
  obtain ⟨p, hi, hj⟩ := h.of_mem_children hchild
  obtain ⟨p', hi', hj'⟩ := h.of_mem_children hchild'
  obtain ⟨rfl, hk⟩ := List.append_inj' (Option.some.inj (hj.symm.trans hj')) rfl
  exact ⟨h.position_eq hi hi', (List.singleton_inj.1 hk)⟩

/-- The keys of a way are those of its end. -/
theorem getElem?_of_trail (h : a.Indexed content paths) {steps : List (String × Nat)} {j : Nat}
    (ht : a.Trail steps j) : paths[j]? = some (steps.map (·.1)) := by
  induction ht with
  | root => exact h.root
  | child _ hchild ih =>
      rw [List.map_append, List.map_singleton]
      exact (h.mem_children ih _ _).1 hchild

/-- Parents come first, and so a way leads down to every position. -/
theorem exists_trail (h : a.Indexed content paths) {j : Nat} (hlt : j < a.nodes.length) :
    ∃ steps, a.Trail steps j := by
  induction j using Nat.strongRecOn with
  | ind j ih =>
      rcases Nat.eq_zero_or_pos j with rfl | hpos
      · exact ⟨[], .root⟩
      · obtain ⟨i, k, hchild⟩ := h.exists_parent hpos hlt
        have hi := (h.later hchild).1
        obtain ⟨steps, ht⟩ := ih i hi (Nat.lt_trans hi hlt)
        exact ⟨steps ++ [(k, j)], ht.child hchild⟩

/-- No two ways lead to one position. -/
theorem trail_unique (h : a.Indexed content paths) {steps steps' : List (String × Nat)} {j : Nat}
    (ht : a.Trail steps j) (ht' : a.Trail steps' j) : steps = steps' := by
  induction ht generalizing steps' with
  | root =>
      generalize hzero : 0 = j at ht'
      cases ht' with
      | root => rfl
      | child _ hchild => exact absurd (h.later hchild).1 (by omega)
  | @child steps i j k ht hchild ih =>
      cases ht' with
      | root => exact absurd (h.later hchild).1 (Nat.not_lt_zero i)
      | child ht' hchild' =>
          obtain ⟨rfl, rfl⟩ := h.parent_unique hchild hchild'
          rw [ih ht']

end Indexed

end Arena

end AccessPolicy
