import AccessPolicy.Proofs.Indexing
import AccessPolicy.Scope.Outline

/-!
# AccessPolicy.Proofs.Outlines

The loop that writes the outline of an arena, and the recursion that it stands for.

In an arena whose children come after their parents, the scopes below one scope can be gone
through by recursion on positions.

1. A turn shows the first of the scopes that are pending: those that wait, each with all below
   it.  If all indentations can be written, the loop ends when it has shown the root with all
   below it; if not, nothing comes out, at the first scope with an indentation too wide.
2. The scopes are visited in the order of their key paths, so each is visited once.

* `pending_cons` — what a turn does to the scopes that are pending, `after_of_pending` — what
  some turns do;
* `outline_of_narrow`, `outline_of_wide` — rule 1;
* `rendering_eq_join` — an outline is made of lines, one for each visit;
* `Indexed.pairwise_visits`, `Indexed.perm_visits` — rule 2.
-/

namespace AccessPolicy

namespace Arena

variable {a : Arena}

/-! ## By recursion -/

/-- Children come after their parents, and they are there. -/
def Descends (a : Arena) : Prop :=
  ∀ i j k, (k, j) ∈ a.children i → i < j ∧ j < a.nodes.length

/-- What is shown of the scope at a position, on a level. -/
def entryAt? (a : Arena) (visit : Nat × Nat) : Option OutlineEntry :=
  a.nodes[visit.1]?.map (OutlineEntry.ofNode visit.1 visit.2)

/-- The line of a scope, with its end. -/
def lineAt (a : Arena) (visit : Nat × Nat) : String := (a.entryAt? visit).elim "" (·.line ++ "\n")

/-- The outline of a scope: its line, and the outlines of its children on the next level. -/
def rendering (a : Arena) (h : a.Descends) (position level : Nat) : String :=
  a.lineAt (position, level) ++
    String.join ((a.children position).attach.map fun child =>
      a.rendering h child.1.2 (level + 1))
termination_by a.nodes.length - position
decreasing_by
  have hlater : position < child.1.2 ∧ child.1.2 < a.nodes.length := h _ _ _ child.2
  omega

/-- A scope and all below it, each with its level, a scope before its children. -/
def visits (a : Arena) (h : a.Descends) (position level : Nat) : List (Nat × Nat) :=
  (position, level) ::
    (a.children position).attach.flatMap fun child => a.visits h child.1.2 (level + 1)
termination_by a.nodes.length - position
decreasing_by
  have hlater : position < child.1.2 ∧ child.1.2 < a.nodes.length := h _ _ _ child.2
  omega

theorem rendering_eq (h : a.Descends) (position level : Nat) :
    a.rendering h position level = a.lineAt (position, level) ++
      String.join ((a.children position).map fun child => a.rendering h child.2 (level + 1)) := by
  rw [rendering]
  exact congrArg (a.lineAt (position, level) ++ String.join ·)
    (List.attach_map_val (f := fun (child : String × Nat) => a.rendering h child.2 (level + 1)))

theorem visits_eq (h : a.Descends) (position level : Nat) :
    a.visits h position level = (position, level) ::
      (a.children position).flatMap fun child => a.visits h child.2 (level + 1) := by
  rw [visits]
  exact congrArg ((position, level) :: List.flatten ·)
    (List.attach_map_val (f := fun (child : String × Nat) => a.visits h child.2 (level + 1)))

/-- What holds of a scope if it holds of its children holds of all scopes. -/
theorem Descends.induct (h : a.Descends) {motive : Nat → Nat → Prop}
    (step : ∀ position level, (∀ child ∈ a.children position, motive child.2 (level + 1)) →
      motive position level) (position level : Nat) : motive position level :=
  rendering.induct a h motive
    (fun position level ih => step position level fun child hchild => ih ⟨child, hchild⟩)
    position level

/-- An outline is made of the lines of the visits. -/
theorem rendering_eq_join (h : a.Descends) (position level : Nat) :
    a.rendering h position level = String.join ((a.visits h position level).map a.lineAt) := by
  induction position, level using h.induct with
  | step position level ih =>
      have hbelow (cs : List (String × Nat)) (hcs : cs ⊆ a.children position) :
          String.join (cs.map fun child => a.rendering h child.2 (level + 1)) =
            String.join ((cs.flatMap fun child => a.visits h child.2 (level + 1)).map
              a.lineAt) := by
        induction cs with
        | nil => rfl
        | cons child cs ihcs =>
            obtain ⟨hchild, hrest⟩ := List.cons_subset.1 hcs
            rw [List.map_cons, String.join_cons, ih child hchild, ihcs hrest, List.flatMap_cons,
              List.map_append, String.join_append]
      rw [rendering_eq, visits_eq, List.map_cons, String.join_cons, hbelow _ (List.Subset.refl _)]

/-- With a scope, its children are visited on the next level. -/
theorem mem_visits_child (h : a.Descends) {position level i l : Nat}
    (hvisit : (i, l) ∈ a.visits h position level) {k : String} {j : Nat}
    (hchild : (k, j) ∈ a.children i) : (j, l + 1) ∈ a.visits h position level := by
  induction position, level using h.induct with
  | step position level ih =>
      rw [visits_eq, List.mem_cons, List.mem_flatMap] at hvisit ⊢
      rcases hvisit with heq | ⟨child, hmem, hvisit⟩
      · obtain ⟨rfl, rfl⟩ := Prod.mk.inj heq
        refine .inr ⟨(k, j), hchild, ?_⟩
        rw [visits_eq]
        exact List.mem_cons_self
      · exact .inr ⟨child, hmem, ih child hmem hvisit⟩

/-! ## By a stack -/

/-- On the stack, children stand in their order. -/
theorem pushChildren_eq (children : List (String × Nat)) (level : Nat)
    (waiting : List (Nat × Nat)) :
    pushChildren children level waiting =
      children.map (fun child => (child.2, level)) ++ waiting := by
  rw [pushChildren, List.foldl_reverse]
  induction children with
  | nil => rfl
  | cons child children ih => rw [List.foldr_cons, ih]; rfl

/-- The indentation of a visited scope can be written. -/
def Narrow (visit : Nat × Nat) : Prop := 2 * visit.2 ≤ maxWidth

instance (visit : Nat × Nat) : Decidable (Narrow visit) :=
  inferInstanceAs (Decidable (_ ≤ _))

/-- A turn shows the scope on top of the stack and puts its children there instead. -/
theorem turn_of_narrow (shown : String) {position level : Nat} (rest : List (Nat × Nat))
    (hlt : position < a.nodes.length) (h : Narrow (position, level)) :
    a.turn ⟨shown, (position, level) :: rest⟩ =
      some (.inl ⟨shown ++ a.lineAt (position, level),
        (a.children position).map (fun child => (child.2, level + 1)) ++ rest⟩) := by
  have hnode : a.nodes[position]? = some a.nodes[position] := List.getElem?_eq_getElem hlt
  have hline : (OutlineEntry.ofNode position level a.nodes[position]).line? =
      some (OutlineEntry.ofNode position level a.nodes[position]).line := if_pos (decide_eq_true h)
  simp only [turn, hnode, hline, pushChildren_eq, lineAt, entryAt?, children, Option.map_some,
    Option.elim_some, String.append_assoc]

/-- No turn shows a scope whose indentation is too wide. -/
theorem turn_of_wide (shown : String) {position level : Nat} (rest : List (Nat × Nat))
    (h : ¬ Narrow (position, level)) : a.turn ⟨shown, (position, level) :: rest⟩ = none := by
  simp only [turn]
  cases hnode : a.nodes[position]? with
  | none => rfl
  | some node =>
      have hline : (OutlineEntry.ofNode position level node).line? = none :=
        if_neg fun hfits => h (of_decide_eq_true hfits)
      simp only [hline]

/-- The scopes that wait, each with all below it. -/
def pending (a : Arena) (h : a.Descends) (waiting : List (Nat × Nat)) : List (Nat × Nat) :=
  waiting.flatMap fun visit => a.visits h visit.1 visit.2

/-- When a scope has been shown, its children wait in its place, and the other scopes that were
pending are pending still. -/
theorem pending_cons (h : a.Descends) (position level : Nat) (rest : List (Nat × Nat)) :
    a.pending h ((position, level) :: rest) = (position, level) ::
      a.pending h ((a.children position).map (fun child => (child.2, level + 1)) ++ rest) := by
  rw [pending, List.flatMap_cons, visits_eq, pending, List.flatMap_append, List.flatMap_map,
    List.cons_append]

theorem eq_nil_of_pending (h : a.Descends) {waiting : List (Nat × Nat)}
    (hpending : a.pending h waiting = []) : waiting = [] := by
  cases waiting with
  | nil => rfl
  | cons visit rest =>
      rw [pending_cons] at hpending
      cases hpending

/-- The sketch after some turns of the loop; nothing if it has ended before. -/
def after (a : Arena) : Nat → Sketch → Option Sketch
  | 0, sketch => some sketch
  | turns + 1, sketch =>
      match a.turn sketch with
      | some (.inl next) => a.after turns next
      | _ => none

/-- After some turns, the loop goes on from the sketch there is. -/
theorem repeatM_turn_eq {turns : Nat} {sketch last : Sketch}
    (h : a.after turns sketch = some last) : repeatM a.turn sketch = repeatM a.turn last := by
  induction turns generalizing sketch with
  | zero => rw [Option.some.inj h]
  | succ turns ih =>
      rw [after] at h
      split at h
      · rename_i next hturn
        rw [repeatM_eq_of_monadTail, repeatM.body, hturn]
        exact ih h
      · cases h

/-- The first scopes that are pending are shown, in as many turns as there are of them, if their
indentations can be written; then the others are pending. -/
theorem after_of_pending (h : a.Descends) {first others : List (Nat × Nat)} {sketch : Sketch}
    (hthere : ∀ visit ∈ sketch.waiting, visit.1 < a.nodes.length)
    (hpending : a.pending h sketch.waiting = first ++ others)
    (hnarrow : ∀ visit ∈ first, Narrow visit) :
    ∃ waiting, a.after first.length sketch =
        some ⟨sketch.shown ++ String.join (first.map a.lineAt), waiting⟩ ∧
      a.pending h waiting = others := by
  induction first generalizing sketch with
  | nil => exact ⟨sketch.waiting, by simp [after], hpending⟩
  | cons visit first ih =>
      obtain ⟨shown, waiting⟩ := sketch
      cases waiting with
      | nil => cases hpending
      | cons top rest =>
          rw [pending_cons, List.cons_append] at hpending
          obtain ⟨rfl, hpending'⟩ := List.cons.inj hpending
          obtain ⟨htop, hrest⟩ := List.forall_mem_cons.1 hthere
          obtain ⟨hwidth, hnarrow⟩ := List.forall_mem_cons.1 hnarrow
          -- The children wait above the rest.
          have hbelow : ∀ visit ∈
              (a.children top.1).map (fun child => (child.2, top.2 + 1)) ++ rest,
              visit.1 < a.nodes.length := by
            refine List.forall_mem_append.2 ⟨fun visit hvisit => ?_, hrest⟩
            obtain ⟨child, hchild, rfl⟩ := List.mem_map.1 hvisit
            exact (h _ _ _ hchild).2
          obtain ⟨waiting, hafter, hothers⟩ := @ih ⟨_, _⟩ hbelow hpending' hnarrow
          refine ⟨waiting, ?_, hothers⟩
          rw [List.length_cons, after, turn_of_narrow shown rest htop hwidth]
          refine hafter.trans ?_
          rw [List.map_cons, String.join_cons, String.append_assoc]

theorem root_waits (hroot : 0 < a.nodes.length) :
    ∀ visit ∈ blankSketch.waiting, visit.1 < a.nodes.length :=
  List.forall_mem_singleton.2 hroot

theorem pending_blankSketch (h : a.Descends) :
    a.pending h blankSketch.waiting = a.visits h 0 0 := by
  rw [pending, blankSketch, List.flatMap_cons, List.flatMap_nil, List.append_nil]

/-- If all indentations can be written, nothing waits when the root has been shown with all below
it, and the loop ends. -/
theorem after_visits (h : a.Descends) (hroot : 0 < a.nodes.length)
    (hnarrow : ∀ visit ∈ a.visits h 0 0, Narrow visit) :
    a.after (a.visits h 0 0).length blankSketch = some ⟨a.rendering h 0 0, []⟩ := by
  obtain ⟨waiting, hafter, hnothing⟩ := after_of_pending h (root_waits hroot)
    ((pending_blankSketch h).trans (List.append_nil _).symm) hnarrow
  rw [hafter, eq_nil_of_pending h hnothing, blankSketch, String.empty_append, rendering_eq_join]

theorem outline_of_narrow (h : a.Descends) (hroot : 0 < a.nodes.length)
    (hnarrow : ∀ visit ∈ a.visits h 0 0, Narrow visit) :
    a.outline = some (a.rendering h 0 0) := by
  rw [outline, repeatM_turn_eq (after_visits h hroot hnarrow), repeatM_eq_of_monadTail]
  rfl

/-- If not, the loop gets to a scope that it cannot show. -/
theorem exists_turn_eq_none (h : a.Descends) (hroot : 0 < a.nodes.length)
    (hwide : ∃ visit ∈ a.visits h 0 0, ¬ Narrow visit) :
    ∃ turns sketch, turns < (a.visits h 0 0).length ∧
      a.after turns blankSketch = some sketch ∧ a.turn sketch = none := by
  obtain ⟨first, visit, others, hvisits, hvisit, hnarrow⟩ :
      ∃ first visit others, a.visits h 0 0 = first ++ visit :: others ∧ ¬ Narrow visit ∧
        ∀ visit ∈ first, Narrow visit := by
    have hfound : ((a.visits h 0 0).find? fun visit => ¬ Narrow visit).isSome = true := by
      simpa using hwide
    obtain ⟨visit, hvisit⟩ := Option.isSome_iff_exists.1 hfound
    obtain ⟨hw, first, others, hvisits, hnarrow⟩ := List.find?_eq_some_iff_append.1 hvisit
    exact ⟨first, visit, others, hvisits, of_decide_eq_true hw,
      fun v hv => by simpa using hnarrow v hv⟩
  obtain ⟨waiting, hafter, hpending⟩ := after_of_pending h (root_waits hroot)
    ((pending_blankSketch h).trans hvisits) hnarrow
  refine ⟨first.length, _, by simp [hvisits], hafter, ?_⟩
  cases waiting with
  | nil => cases hpending
  | cons top rest =>
      rw [pending_cons] at hpending
      obtain ⟨rfl, -⟩ := List.cons.inj hpending
      exact turn_of_wide _ rest hvisit

theorem outline_of_wide (h : a.Descends) (hroot : 0 < a.nodes.length)
    (hwide : ∃ visit ∈ a.visits h 0 0, ¬ Narrow visit) : a.outline = none := by
  obtain ⟨turns, sketch, -, hafter, hturn⟩ := exists_turn_eq_none h hroot hwide
  rw [outline, repeatM_turn_eq hafter, repeatM_eq_of_monadTail, repeatM.body, hturn]
  rfl

/-! ## In the order of key paths -/

/-- The key path of a visited scope. -/
def keysAt (paths : List (List String)) (visit : Nat × Nat) : List String :=
  paths[visit.1]?.getD []

namespace Indexed

variable {content : List String → ScopeNode} {paths : List (List String)} {p : List String}

theorem descends (h : a.Indexed content paths) : a.Descends := fun _ _ _ => h.later

/-- Below a scope, key paths go on from its own, by as many keys as levels. -/
theorem exists_of_mem_visits (h : a.Indexed content paths) {position level : Nat}
    (hp : paths[position]? = some p) {visit : Nat × Nat}
    (hvisit : visit ∈ a.visits h.descends position level) :
    ∃ q, paths[visit.1]? = some (p ++ q) ∧ visit.2 = level + q.length := by
  induction position, level using h.descends.induct generalizing p with
  | step position level ih =>
      rw [visits_eq, List.mem_cons, List.mem_flatMap] at hvisit
      rcases hvisit with rfl | ⟨⟨k, j⟩, hchild, hvisit⟩
      · exact ⟨[], by rw [List.append_nil, hp], rfl⟩
      · have hj := (h.mem_children hp k j).1 hchild
        obtain ⟨q, hq, hlevel⟩ := ih (k, j) hchild hj hvisit
        refine ⟨k :: q, ?_, ?_⟩
        · rw [hq, List.append_assoc, List.singleton_append]
        · rw [hlevel, List.length_cons]
          omega

/-- There is a node where a visit goes. -/
theorem exists_node_of_mem_visits (h : a.Indexed content paths) {visit : Nat × Nat}
    (hvisit : visit ∈ a.visits h.descends 0 0) : ∃ node, a.nodes[visit.1]? = some node := by
  obtain ⟨q, hq, -⟩ := h.exists_of_mem_visits h.root hvisit
  exact ⟨_, List.getElem?_eq_getElem (h.lt hq)⟩

/-- Visits are in the order of key paths. -/
theorem pairwise_visits (h : a.Indexed content paths) {position level : Nat}
    (hp : paths[position]? = some p) :
    (a.visits h.descends position level).Pairwise fun v w => keysAt paths v < keysAt paths w := by
  induction position, level using h.descends.induct generalizing p with
  | step position level ih =>
      have hself : keysAt paths (position, level) = p := by rw [keysAt, hp, Option.getD_some]
      -- What is visited with a child has its key behind the path.
      have hkeys {k : String} {j : Nat} (hchild : (k, j) ∈ a.children position)
          {v : Nat × Nat} (hv : v ∈ a.visits h.descends j (level + 1)) :
          ∃ q, keysAt paths v = p ++ k :: q := by
        have hj := (h.mem_children hp k j).1 hchild
        obtain ⟨q, hq, -⟩ := h.exists_of_mem_visits hj hv
        exact ⟨q, by rw [keysAt, hq, Option.getD_some, List.append_assoc, List.singleton_append]⟩
      rw [visits_eq]
      refine List.pairwise_cons.2 ⟨fun v hv => ?_, List.pairwise_flatMap.2 ⟨?_, ?_⟩⟩
      · obtain ⟨⟨k, j⟩, hchild, hv⟩ := List.mem_flatMap.1 hv
        obtain ⟨q, hq⟩ := hkeys hchild hv
        have hlonger : p ++ [] < p ++ k :: q := List.append_left_lt (List.nil_lt_cons k q)
        rwa [hself, hq, ← List.append_nil p, List.append_assoc]
      · exact fun ⟨k, j⟩ hchild => ih (k, j) hchild ((h.mem_children hp k j).1 hchild)
      · refine (h.ascending position).imp_of_mem fun hc hc' hlt v hv w hw => ?_
        obtain ⟨q, hq⟩ := hkeys hc hv
        obtain ⟨q', hq'⟩ := hkeys hc' hw
        rw [hq, hq']
        exact List.append_left_lt (List.cons_lt_cons_iff.2 (.inl hlt))

/-- Every scope is visited. -/
theorem exists_visit (h : a.Indexed content paths) {j : Nat} (hj : j < a.nodes.length) :
    ∃ l, (j, l) ∈ a.visits h.descends 0 0 := by
  induction j using Nat.strong_induction_on with
  | h j ih =>
      rcases Nat.eq_zero_or_pos j with rfl | hpos
      · refine ⟨0, ?_⟩
        rw [visits_eq]
        exact List.mem_cons_self
      · obtain ⟨i, k, hchild⟩ := h.exists_parent hpos hj
        obtain ⟨hless, -⟩ := h.later hchild
        obtain ⟨l, hl⟩ := ih i hless (hless.trans hj)
        exact ⟨l + 1, mem_visits_child h.descends hl hchild⟩

/-- Every scope is visited once. -/
theorem perm_visits (h : a.Indexed content paths) :
    ((a.visits h.descends 0 0).map (·.1)).Perm (List.range a.nodes.length) := by
  have hnodup : ((a.visits h.descends 0 0).map (·.1)).Nodup := by
    refine List.pairwise_map.2 ((h.pairwise_visits h.root).imp fun {v w} hlt heq => ?_)
    rw [keysAt, keysAt, heq] at hlt
    exact List.lt_irrefl _ hlt
  refine (List.perm_ext_iff_of_nodup hnodup List.nodup_range).2 fun j => ?_
  rw [List.mem_map, List.mem_range]
  constructor
  · rintro ⟨v, hv, rfl⟩
    obtain ⟨q, hq, -⟩ := h.exists_of_mem_visits h.root hv
    exact h.lt hq
  · intro hj
    obtain ⟨l, hl⟩ := h.exists_visit hj
    exact ⟨_, hl, rfl⟩

theorem length_visits (h : a.Indexed content paths) :
    (a.visits h.descends 0 0).length = a.nodeCount := by
  rw [nodeCount, ← List.length_map (f := (·.1)), h.perm_visits.length_eq, List.length_range]

/-- What is visited are the nodes, in some order. -/
theorem perm_nodes (h : a.Indexed content paths) :
    ((a.visits h.descends 0 0).map fun v => a.nodes[v.1]?).Perm (a.nodes.map some) := by
  have hnodes : (List.range a.nodes.length).map (a.nodes[·]?) = a.nodes.map some := by
    refine List.ext_getElem (by simp) fun i hi _ => ?_
    simp at hi
    simp [hi]
  have hperm := h.perm_visits.map (a.nodes[·]?)
  rwa [List.map_map, hnodes] at hperm

end Indexed

end Arena

end AccessPolicy
