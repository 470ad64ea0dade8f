import AccessPolicy.Accounting.ProcessTable
import Mathlib.Data.List.Nodup
import Mathlib.Logic.Relation

/-!
# AccessPolicy.Proofs.Family

Which processes a family has, and what remains when it is forgotten.

* `mem_descend` — the search finds what the links lead to from where it starts;
* `mem_family_iff` — the family of a known process is what the links lead to from it;
* `Distinct.nodup_family` — no process is in a family twice;
* `find?_retire` — to forget a family is to forget its members and nothing else.
-/

namespace AccessPolicy

namespace ProcessTable

/-! ## Links -/

/-- Among some processes, `parent` is the parent of `child`. -/
def ParentIn (ps : List Process) (parent child : UInt32) : Prop :=
  ∃ p ∈ ps, p.pid = child ∧ p.parent = some parent

/-- Among more processes, links lead further. -/
theorem reach_mono {ps qs : List Process} (h : ∀ p ∈ ps, p ∈ qs) {a b : UInt32}
    (hreach : Relation.ReflTransGen (ParentIn ps) a b) :
    Relation.ReflTransGen (ParentIn qs) a b := by
  refine Relation.ReflTransGen.mono (fun parent child hlink => ?_) _ _ hreach
  obtain ⟨p, hp, hchild, hparent⟩ := hlink
  exact ⟨p, h p hp, hchild, hparent⟩

theorem mem_childrenIn {pid : UInt32} {ps : List Process} {p : Process} :
    p ∈ childrenIn pid ps ↔ p ∈ ps ∧ p.parent = some pid := by
  simp [childrenIn]

theorem mem_othersIn {pid : UInt32} {ps : List Process} {p : Process} :
    p ∈ othersIn pid ps ↔ p ∈ ps ∧ p.parent ≠ some pid := by
  simp [othersIn]

/-- A path of links that starts at `pid`, or at a process that is pending, either ends
there or goes on below the children of `pid` without coming back to them. -/
theorem reach_below {waiting : List Process} {pid q x : UInt32} {pending : List UInt32}
    (hq : q ∈ pid :: pending) (h : Relation.ReflTransGen (ParentIn waiting) q x) :
    x = pid ∨ ∃ r ∈ (childrenIn pid waiting).map (·.pid) ++ pending,
      Relation.ReflTransGen (ParentIn (othersIn pid waiting)) r x := by
  induction h with
  | refl =>
      rcases List.mem_cons.1 hq with rfl | hpending
      · exact .inl rfl
      · exact .inr ⟨q, List.mem_append_right _ hpending, .refl⟩
  | @tail b c _ hlink ih =>
      obtain ⟨p, hp, rfl, hparent⟩ := hlink
      by_cases hb : b = pid
      · subst hb
        have hchild := List.mem_map_of_mem (f := (·.pid)) (mem_childrenIn.2 ⟨hp, hparent⟩)
        exact .inr ⟨p.pid, List.mem_append_left _ hchild, .refl⟩
      · obtain rfl | ⟨r, hr, hreach⟩ := ih
        · exact absurd rfl hb
        · have hother : p ∈ othersIn pid waiting :=
            mem_othersIn.2 ⟨hp, by simp [hparent, hb]⟩
          exact .inr ⟨r, hr, hreach.tail ⟨p, hother, rfl, hparent⟩⟩

/-- The search finds what the links lead to from where it starts. -/
theorem mem_descend {waiting : List Process} {pending : List UInt32} {x : UInt32} :
    x ∈ descend waiting pending ↔
      ∃ q ∈ pending, Relation.ReflTransGen (ParentIn waiting) q x := by
  induction waiting, pending using descend.induct with
  | case1 => simp [descend]
  | case2 waiting pid pending ih =>
      rw [descend, List.mem_cons, ih]
      constructor
      · rintro (rfl | ⟨r, hr, hreach⟩)
        · exact ⟨x, List.mem_cons_self, .refl⟩
        · have hreach := reach_mono (fun p hp => (mem_othersIn.1 hp).1) hreach
          rcases List.mem_append.1 hr with hchild | hpending
          · obtain ⟨p, hp, rfl⟩ := List.mem_map.1 hchild
            obtain ⟨hp, hparent⟩ := mem_childrenIn.1 hp
            exact ⟨pid, List.mem_cons_self, .head ⟨p, hp, rfl, hparent⟩ hreach⟩
          · exact ⟨r, List.mem_cons_of_mem _ hpending, hreach⟩
      · rintro ⟨q, hq, hreach⟩
        exact reach_below hq hreach

theorem perm_childrenIn_append (pid : UInt32) (ps : List Process) :
    ps.Perm (childrenIn pid ps ++ othersIn pid ps) :=
  (List.filter_append_perm _ ps).symm

/-- The search finds what is pending or waiting. -/
theorem mem_of_mem_descend {waiting : List Process} {pending : List UInt32} {x : UInt32}
    (h : x ∈ descend waiting pending) : x ∈ pending ++ waiting.map (·.pid) := by
  obtain ⟨q, hq, hreach⟩ := mem_descend.1 h
  cases hreach with
  | refl => exact List.mem_append_left _ hq
  | tail _ hlink =>
      obtain ⟨p, hp, rfl, -⟩ := hlink
      exact List.mem_append_right _ (List.mem_map_of_mem hp)

/-- Where all that is pending or waiting is distinct, the search finds nothing twice. -/
theorem nodup_descend {waiting : List Process} {pending : List UInt32}
    (h : (pending ++ waiting.map (·.pid)).Nodup) : (descend waiting pending).Nodup := by
  induction waiting, pending using descend.induct with
  | case1 => simp [descend]
  | case2 waiting pid pending ih =>
      have hperm : (pending ++ waiting.map (·.pid)).Perm
          ((childrenIn pid waiting).map (·.pid) ++ pending ++
            (othersIn pid waiting).map (·.pid)) := by
        have hwaiting := (perm_childrenIn_append pid waiting).map (·.pid)
        rw [List.map_append] at hwaiting
        refine (hwaiting.append_left pending).trans ?_
        rw [← List.append_assoc]
        exact List.perm_append_comm.append_right _
      obtain ⟨hpid, hrest⟩ := List.nodup_cons.1 h
      rw [descend, List.nodup_cons]
      exact ⟨fun hmem => hpid (hperm.mem_iff.2 (mem_of_mem_descend hmem)), ih (hperm.nodup hrest)⟩

/-! ## Families -/

/-- The family of a known process is what the links lead to from it. -/
theorem mem_family_iff {t : ProcessTable} {root x : UInt32} :
    x ∈ t.family root ↔
      (t.find? root).isSome = true ∧ Relation.ReflTransGen (ParentIn t.processes) root x := by
  unfold family
  split
  · rename_i hknown
    simp only [mem_descend, List.mem_singleton, exists_eq_left, hknown, true_and]
    constructor
    · intro h
      exact reach_mono (fun p hp => (List.mem_filter.1 hp).1) h
    · intro h
      induction h with
      | refl => exact .refl
      | tail _ hlink ih =>
          obtain ⟨p, hp, rfl, hparent⟩ := hlink
          -- a link back to the root starts the path afresh
          by_cases hroot : p.pid = root
          · rw [hroot]
          · exact ih.tail ⟨p, List.mem_filter.2 ⟨hp, by simp [hroot]⟩, rfl, hparent⟩
  · rename_i hknown
    simp [hknown]

/-- To forget a family is to forget its members and nothing else. -/
theorem find?_retire (t : ProcessTable) (root pid : UInt32) :
    (t.retire root).find? pid = if pid ∈ t.family root then none else t.find? pid := by
  simp only [find?, retire, List.find?_filter]
  split
  · rename_i hmem
    refine List.find?_eq_none.2 fun p _ => ?_
    by_cases hpid : p.pid = pid <;> simp [hpid, hmem]
  · rename_i hmem
    congr 1
    funext p
    by_cases hpid : p.pid = pid <;> simp [hpid, hmem]

/-! ## Distinct processes -/

/-- No process is in the table twice. -/
def Distinct (t : ProcessTable) : Prop := (t.processes.map (·.pid)).Nodup

theorem distinct_empty : (∅ : ProcessTable).Distinct := List.nodup_nil

theorem find?_isSome_iff {t : ProcessTable} {pid : UInt32} :
    (t.find? pid).isSome = true ↔ pid ∈ t.processes.map (·.pid) := by
  simp [find?]

theorem Distinct.alter {t : ProcessTable} (h : t.Distinct) {pid : UInt32}
    {change : Process → Process} (hchange : ∀ p : Process, (change p).pid = p.pid) :
    (t.alter pid change).Distinct := by
  unfold ProcessTable.alter
  split
  · have hpids : (t.processes.map fun p => if p.pid = pid then change p else p).map (·.pid) =
        t.processes.map (·.pid) := by
      rw [List.map_map]
      refine List.map_congr_left fun p _ => ?_
      by_cases hp : p.pid = pid <;> simp [hp, hchange]
    rw [Distinct, hpids]
    exact h
  · rename_i hnew
    rw [find?_isSome_iff] at hnew
    have hfresh : (change (.fresh pid)).pid = pid := hchange _
    simp only [Distinct, List.map_append, List.map_singleton, hfresh]
    exact List.nodup_append.2 ⟨h, List.nodup_singleton _, by
      rintro a ha _ hb rfl
      exact hnew (List.mem_singleton.1 hb ▸ ha)⟩

theorem Distinct.retire {t : ProcessTable} (h : t.Distinct) (root : UInt32) :
    (t.retire root).Distinct :=
  h.sublist (List.filter_sublist.map _)

theorem Distinct.nodup_family {t : ProcessTable} (h : t.Distinct) (root : UInt32) :
    (t.family root).Nodup := by
  unfold family
  split
  · refine nodup_descend (List.nodup_cons.2 ⟨?_, h.sublist (List.filter_sublist.map _)⟩)
    simp
  · exact List.nodup_nil

/-- In a table of distinct processes, each is found under its number. -/
theorem Distinct.find?_eq_some_iff {t : ProcessTable} (h : t.Distinct) {pid : UInt32}
    {p : Process} : t.find? pid = some p ↔ p ∈ t.processes ∧ p.pid = pid := by
  constructor
  · intro hfound
    exact ⟨List.mem_of_find?_eq_some hfound, pid_of_find? hfound⟩
  · rintro ⟨hp, rfl⟩
    have hknown := find?_isSome_iff.2 (List.mem_map_of_mem (f := (·.pid)) hp)
    obtain ⟨q, hq⟩ := Option.isSome_iff_exists.1 hknown
    rw [hq, List.inj_on_of_nodup_map h (List.mem_of_find?_eq_some hq) hp (pid_of_find? hq)]

/-- In a table of distinct processes, a link is what is known of the child. -/
theorem Distinct.parentIn_iff {t : ProcessTable} (h : t.Distinct) {parent child : UInt32} :
    ParentIn t.processes parent child ↔
      ∃ p, t.find? child = some p ∧ p.parent = some parent := by
  simp only [ParentIn, h.find?_eq_some_iff, and_assoc]

end ProcessTable

end AccessPolicy
