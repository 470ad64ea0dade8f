import AccessPolicy.Manifest

/-!
# AccessPolicy.Scope.Arena

Scopes in an arena: one list of nodes, in which a node refers to those below it by their
positions.

The children of a node are in ascending order of their keys, and a child is found by
halving.  A rule is set at the end of a path; the nodes that are missing on the way are
added behind all others, and no node is ever moved.  There is room for `maxNodes` of them:
where there is none for the next, the way ends, and what was added for it stays.

* `seek_eq_ok_iff` — a child is found where it is listed;
* `isPlace_of_seek` — one that is missing has its place between smaller and greater keys.
-/

namespace AccessPolicy

/-- One scope of an arena. -/
structure ScopeNode where
  /-- The component that leads to the scope, as it was first spelled. -/
  name : String
  /-- The inherited bits to keep. -/
  mask : PolicyBits
  /-- The bits to add. -/
  policy : PolicyBits
  /-- Whether there is a rule. -/
  explicit : Bool
  /-- Whether the rule is for the path alone. -/
  exactOnly : Bool
  /-- The keys of the scopes below, each with its position. -/
  children : List (String × Nat)
  deriving DecidableEq, Repr

namespace ScopeNode

/-- A scope without a rule, which leaves what it inherits as it is. -/
def routing (name : String) : ScopeNode := ⟨name, .maskNone, ∅, false, false, []⟩

/-- The scope with a rule. -/
def withRule (node : ScopeNode) (rule : Rule) : ScopeNode :=
  { node with
    mask := rule.mask
    policy := rule.policy
    explicit := true
    exactOnly := rule.kind = .exact }

/-- The rule of a scope. -/
def rule? (node : ScopeNode) : Option Rule :=
  if node.explicit then
    some ⟨node.mask, node.policy, if node.exactOnly then .exact else .scope⟩
  else none

end ScopeNode

/-! ## Children -/

/-- Halve the range of `size` ascending keys from `base` on until one of them is left. -/
def narrow (keys : List String) (key : String) (base size : Nat) : Nat :=
  if size ≤ 1 then base
  else
    let half := size / 2
    let mid := base + half
    narrow keys key (if keys[mid]?.any (key < ·) then base else mid) (size - half)
termination_by size

/-- The position of a child in the arena, or else the place for it among the children. -/
def seek (children : List (String × Nat)) (key : String) : Except Nat Nat :=
  let last := narrow (children.map (·.1)) key 0 children.length
  match children[last]? with
  | none => .error 0
  | some (k, position) =>
      if k = key then .ok position
      else if k < key then .error (last + 1)
      else .error last

/-- A range of ascending keys that has the last key not above `key`, if there is one. -/
structure Brackets (keys : List String) (key : String) (base size : Nat) : Prop where
  pos : 0 < size
  bound : base + size ≤ keys.length
  low : base = 0 ∨ ∀ k, keys[base]? = some k → ¬ key < k
  high : ∀ i k, base + size ≤ i → keys[i]? = some k → key < k

/-- Halving keeps that key in the range. -/
theorem Brackets.narrow {keys : List String} {key : String} (h : keys.Pairwise (· < ·))
    {base size : Nat} (hrange : Brackets keys key base size) :
    Brackets keys key (narrow keys key base size) 1 := by
  induction base, size using narrow.induct keys key with
  | case1 base size hle =>
      obtain rfl : size = 1 := Nat.le_antisymm hle hrange.pos
      rwa [AccessPolicy.narrow, if_pos hle]
  | case2 base size hgt half mid ih =>
      have hbound := hrange.bound
      have hhalf : 0 < half ∧ half < size := ⟨by omega, by omega⟩
      have hat : keys[mid]? = some keys[mid] := List.getElem?_eq_getElem (by omega)
      rw [AccessPolicy.narrow, if_neg hgt]
      refine ih ?_
      rw [hat, Option.any_some]
      by_cases hless : key < keys[mid]
      · rw [dif_pos (decide_eq_true hless)]
        refine ⟨by omega, by omega, hrange.low, fun i k hi hk => ?_⟩
        obtain ⟨hlt, rfl⟩ := List.getElem?_eq_some_iff.1 hk
        rcases Nat.eq_or_lt_of_le (show mid ≤ i by omega) with rfl | hmid
        · exact hless
        · exact String.lt_trans hless (List.pairwise_iff_getElem.1 h mid i _ hlt hmid)
      · rw [dif_neg (by rwa [decide_eq_true_iff])]
        refine ⟨by omega, by omega, .inr fun k hk => ?_, fun i k hi => hrange.high i k (by omega)⟩
        obtain rfl := Option.some.inj (hat.symm.trans hk)
        exact hless

section

variable {children : List (String × Nat)} {key : String}

/-- A key has its place among children: those before have smaller keys, the others greater
ones. -/
structure IsPlace (children : List (String × Nat)) (key : String) (place : Nat) : Prop where
  le : place ≤ children.length
  before : ∀ c ∈ children.take place, c.1 < key
  after : ∀ c ∈ children.drop place, key < c.1

/-- In a range of one, the key is found or has its place beside it. -/
theorem isPlace_of_brackets (h : children.Pairwise (·.1 < ·.1)) {last : Nat}
    (hrange : Brackets (children.map (·.1)) key last 1) {k : String} {position : Nat}
    (hlast : children[last]? = some (k, position)) (hne : k ≠ key) :
    IsPlace children key (if k < key then last + 1 else last) := by
  obtain ⟨hlt, hchild⟩ := List.getElem?_eq_some_iff.1 hlast
  have hbefore {i : Nat} (hi : i < last) : children[i].1 < k := by
    have := List.pairwise_iff_getElem.1 h i last (by omega) hlt hi
    rwa [hchild] at this
  have hafter {i : Nat} (hi : i < children.length) (hlast : last < i) : key < children[i].1 :=
    hrange.high i _ hlast (by simp [hi])
  split
  · rename_i hless
    refine ⟨hlt, fun c hc => ?_, fun c hc => ?_⟩
    · obtain ⟨i, hi, rfl⟩ := List.mem_take_iff_getElem.1 hc
      rcases Nat.lt_or_eq_of_le (show i ≤ last by omega) with hi | rfl
      · exact String.lt_trans (hbefore hi) hless
      · rwa [hchild]
    · obtain ⟨i, hi, rfl⟩ := List.mem_drop_iff_getElem.1 hc
      exact hafter _ (by omega)
  · rename_i hnot
    have hless : key < k := Decidable.byContradiction fun hle =>
      hne (String.le_antisymm (String.not_lt.1 hle) (String.not_lt.1 hnot))
    have hzero : last = 0 := hrange.low.resolve_right fun hlow =>
      hlow k (by rw [List.getElem?_map, hlast]; rfl) hless
    subst hzero
    refine ⟨Nat.zero_le _, by simp, fun c hc => ?_⟩
    obtain ⟨i, hi, rfl⟩ := List.mem_drop_iff_getElem.1 hc
    rcases Nat.eq_zero_or_pos i with rfl | hi'
    · simpa [hchild] using hless
    · exact hafter _ (by omega)

/-- A child that is found is listed; one that is not has its place. -/
theorem seek_spec (h : children.Pairwise (·.1 < ·.1)) (key : String) :
    (∃ position, seek children key = .ok position ∧ (key, position) ∈ children) ∨
      ∃ place, seek children key = .error place ∧ IsPlace children key place := by
  by_cases hne : children = []
  · subst hne
    exact .inr ⟨0, rfl, Nat.le_refl _, by simp, by simp⟩
  · have hrange : Brackets (children.map (·.1)) key
        (narrow (children.map (·.1)) key 0 children.length) 1 := by
      refine Brackets.narrow (List.pairwise_map.2 h)
        ⟨List.length_pos_iff.2 hne, by simp, .inl rfl, fun i k hi hk => ?_⟩
      rw [List.getElem?_eq_none (by simpa using hi)] at hk
      cases hk
    have hlt := hrange.bound
    rw [List.length_map] at hlt
    obtain ⟨⟨k, position⟩, hlast⟩ : ∃ c, children[narrow _ key 0 _]? = some c :=
      ⟨_, List.getElem?_eq_getElem hlt⟩
    have hplace := isPlace_of_brackets h hrange hlast
    simp only [seek, hlast]
    split
    · subst_vars
      exact .inl ⟨position, rfl, List.mem_of_getElem? hlast⟩
    · rename_i hne
      replace hplace := hplace hne
      split
      · rename_i hless
        rw [if_pos hless] at hplace
        exact .inr ⟨_, rfl, hplace⟩
      · rename_i hless
        rw [if_neg hless] at hplace
        exact .inr ⟨_, rfl, hplace⟩

theorem IsPlace.not_mem {place : Nat} (h : IsPlace children key place) (position : Nat) :
    (key, position) ∉ children := by
  rw [← List.take_append_drop place children, List.mem_append]
  rintro (hmem | hmem)
  · exact String.lt_irrefl _ (h.before _ hmem)
  · exact String.lt_irrefl _ (h.after _ hmem)

/-- Put in its place, a child leaves the children in order. -/
theorem IsPlace.ascending (h : children.Pairwise (·.1 < ·.1)) {place : Nat}
    (hplace : IsPlace children key place) (position : Nat) :
    (children.take place ++ (key, position) :: children.drop place).Pairwise (·.1 < ·.1) := by
  have hparts := h
  rw [← List.take_append_drop place children] at hparts
  obtain ⟨htake, hdrop, hcross⟩ := List.pairwise_append.1 hparts
  refine List.pairwise_append.2 ⟨htake, List.pairwise_cons.2 ⟨hplace.after, hdrop⟩, ?_⟩
  intro c hc c' hc'
  rcases List.mem_cons.1 hc' with rfl | hc'
  · exact hplace.before c hc
  · exact hcross c hc c' hc'

/-- No two children have the same key. -/
theorem position_eq (h : children.Pairwise (·.1 < ·.1)) {i j : Nat} (hi : (key, i) ∈ children)
    (hj : (key, j) ∈ children) : i = j := by
  obtain ⟨m, hm, hi⟩ := List.getElem_of_mem hi
  obtain ⟨n, hn, hj⟩ := List.getElem_of_mem hj
  rcases Nat.lt_trichotomy m n with hlt | rfl | hgt
  · have hless := List.pairwise_iff_getElem.1 h m n hm hn hlt
    rw [hi, hj] at hless
    exact absurd hless (String.lt_irrefl _)
  · exact (Prod.mk.inj (hi.symm.trans hj)).2
  · have hless := List.pairwise_iff_getElem.1 h n m hn hm hgt
    rw [hi, hj] at hless
    exact absurd hless (String.lt_irrefl _)

/-- A child is found where it is listed. -/
theorem seek_eq_ok_iff (h : children.Pairwise (·.1 < ·.1)) {position : Nat} :
    seek children key = .ok position ↔ (key, position) ∈ children := by
  rcases seek_spec h key with ⟨found, hseek, hmem⟩ | ⟨place, hseek, hplace⟩
  · rw [hseek, Except.ok.injEq]
    exact ⟨fun heq => heq ▸ hmem, position_eq h hmem⟩
  · rw [hseek]
    exact iff_of_false nofun (hplace.not_mem position)

/-- The place for a child that is missing. -/
theorem isPlace_of_seek (h : children.Pairwise (·.1 < ·.1)) {place : Nat}
    (hseek : seek children key = .error place) : IsPlace children key place := by
  rcases seek_spec h key with ⟨found, hseek', -⟩ | ⟨place', hseek', hplace⟩
  · rw [hseek'] at hseek
    cases hseek
  · rw [hseek'] at hseek
    exact Except.error.inj hseek ▸ hplace

end

/-! ## Arenas -/

/-- Scopes in one list.  The root comes first. -/
structure Arena where
  /-- How components are compared. -/
  case : PathCase
  nodes : List ScopeNode
  deriving DecidableEq, Repr

namespace Arena

/-- Number of scopes, with the root. -/
def nodeCount (a : Arena) : Nat := a.nodes.length

/-- Number of scopes that have a rule. -/
def explicitCount (a : Arena) : Nat := (a.nodes.filter (·.explicit)).length

/-- The children of the scope at a position. -/
def children (a : Arena) (position : Nat) : List (String × Nat) :=
  a.nodes[position]?.elim [] (·.children)

/-- The position of the child to which a component leads. -/
def child? (a : Arena) (position : Nat) (component : String) : Option Nat :=
  (seek (a.children position) (a.case.key component)).toOption

/-- The position to which components lead down from another one. -/
def walk? (a : Arena) (position : Nat) : List String → Option Nat
  | [] => some position
  | x :: xs => (a.child? position x).bind (a.walk? · xs)

/-- The scope to which components lead down from the root. -/
def find? (a : Arena) (path : List String) : Option ScopeNode :=
  (a.walk? 0 path).bind (a.nodes[·]?)

/-! ## Setting a rule -/

/-- Add a scope below the one at a position, in its place among the children there. -/
def grow (a : Arena) (position place : Nat) (component : String) : Arena :=
  let child := (a.case.key component, a.nodes.length)
  let list (node : ScopeNode) :=
    { node with children := node.children.take place ++ child :: node.children.drop place }
  { a with nodes := a.nodes.modify position list ++ [.routing component] }

/-- The position to which components lead down from another one, or that there is no room
for a scope on the way; with the scopes on the way that were missing, as far as it goes. -/
def reach (a : Arena) (position : Nat) : List String → Except BuildError Nat × Arena
  | [] => (.ok position, a)
  | x :: xs =>
      match seek (a.children position) (a.case.key x) with
      | .ok child => a.reach child xs
      | .error place =>
          if a.nodes.length < maxNodes then (a.grow position place x).reach a.nodes.length xs
          else (.error .noRoom, a)

/-- Set the rule at a position. -/
def setRule (a : Arena) (position : Nat) (rule : Rule) : Arena :=
  { a with nodes := a.nodes.modify position (·.withRule rule) }

end Arena

/-- An arena that is being built. -/
structure ArenaBuilder where
  arena : Arena
  /-- Number of directives applied. -/
  applied : Nat
  /-- Why the first directive that could not be applied could not. -/
  error : Option BuildError
  deriving DecidableEq, Repr

namespace ArenaBuilder

/-- Before any directive. -/
def empty (case : PathCase) : ArenaBuilder := ⟨⟨case, [.routing ""]⟩, 0, none⟩

/-- Apply one directive. -/
def apply (b : ArenaBuilder) (d : Directive) : ArenaBuilder :=
  if b.error.isSome then { b with applied := b.applied + 1 }
  else
    match Path.components d.path with
    | .ok components =>
        match b.arena.reach 0 components with
        | (.ok position, grown) =>
            { b with applied := b.applied + 1, arena := grown.setRule position d.rule }
        | (.error e, grown) =>
            { b with applied := b.applied + 1, arena := grown, error := some e }
    | .error source =>
        { b with applied := b.applied + 1, error := some (.malformedPath b.applied source) }

/-- Apply directives in order. -/
def applyAll (b : ArenaBuilder) (ds : List Directive) : ArenaBuilder := ds.foldl apply b

/-- Finish an arena. -/
def build (b : ArenaBuilder) : Except BuildError Arena :=
  match b.error with
  | some e => .error e
  | none => if b.arena.nodes[0]?.any (·.explicit) then .ok b.arena else .error .missingRootRule

end ArenaBuilder

end AccessPolicy
