import AccessPolicy.Proofs.Retirement

/-!
# AccessPolicy.Proofs.Searches

A family is what a search from its first process finds, in whatever order the search
comes upon the children of a process.

A search keeps the processes it has visited and those it still has to look at.  It takes
the first of these: one that was visited before is dropped, and of any other the children
are put in front, in the order in which they happen to be stored.  Since numbers of
processes are used again, children may have been visited already, even the first process.

* `Step.work_eq` — every step does one unit of a finite amount of work;
* `Sound.step` — what is visited or pending belongs to the family, each is visited once, and
  nothing below a visited process is left out;
* `isFamily_of_runs` — where a search ends it has found the family;
* `runs_family` — `family` is what one of the searches finds;
* `family_exact` — all of this for every table that a run can leave.
-/

namespace AccessPolicy

namespace ProcessTable

variable {t : ProcessTable} {root : UInt32}

/-! ## What a family is -/

/-- Some processes are closed downwards from `root`: it is one of them, and so is every
process whose parent is one. -/
def ClosedFrom (t : ProcessTable) (root : UInt32) (S : UInt32 → Prop) : Prop :=
  S root ∧ ∀ pid p q, t.find? pid = some p → p.parent = some q → S q → S pid

/-- The list has the least such processes of the table, each once and `root` first. -/
structure IsFamily (t : ProcessTable) (root : UInt32) (members : List UInt32) : Prop where
  first : members.head? = some root
  nodup : members.Nodup
  known : ∀ pid ∈ members, (t.find? pid).isSome = true
  closed : t.ClosedFrom root (· ∈ members)
  least : ∀ S, t.ClosedFrom root S → ∀ pid ∈ members, S pid

/-- Tables that say the same have the same families, up to the order of the members. -/
theorem IsFamily.perm {t' : ProcessTable} {members members' : List UInt32}
    (h : t.IsFamily root members) (h' : t'.IsFamily root members')
    (hsame : ∀ pid, t.find? pid = t'.find? pid) : members.Perm members' := by
  have hclosed : t.ClosedFrom root = t'.ClosedFrom root := by
    funext S
    simp only [ClosedFrom, hsame]
  refine (List.perm_ext_iff_of_nodup h.nodup h'.nodup).2 fun pid => ⟨fun hpid => ?_, fun hpid => ?_⟩
  · exact h.least _ (hclosed ▸ h'.closed) pid hpid
  · exact h'.least _ (hclosed ▸ h.closed) pid hpid

/-! ## Searches -/

/-- The state of a search. -/
structure Search where
  /-- The processes found, in the order of their visits. -/
  visited : List UInt32
  /-- The processes to be looked at, the next one first. -/
  pending : List UInt32

namespace Search

/-- The search that is to begin with one process. -/
def start (root : UInt32) : Search := ⟨[], [root]⟩

/-- One step of a search. -/
inductive Step (t : ProcessTable) : Search → Search → Prop where
  /-- A process that was visited before is dropped. -/
  | skip {visited pending : List UInt32} {pid : UInt32} (h : pid ∈ visited) :
      Step t ⟨visited, pid :: pending⟩ ⟨visited, pending⟩
  /-- Another one is visited, and its children follow in any order. -/
  | visit {visited pending children : List UInt32} {pid : UInt32} (h : pid ∉ visited)
      (hchildren : children.Perm ((childrenIn pid t.processes).map (·.pid))) :
      Step t ⟨visited, pid :: pending⟩ ⟨visited ++ [pid], children ++ pending⟩

/-- A search leads from one state to another in a number of steps. -/
inductive Runs (t : ProcessTable) (s : Search) : Nat → Search → Prop where
  | zero : Runs t s 0 s
  | succ {n : Nat} {s' s'' : Search} (h : Runs t s n s') (hstep : Step t s' s'') :
      Runs t s (n + 1) s''

/-- A search goes on as long as anything is pending. -/
theorem exists_step {s : Search} (h : s.pending ≠ []) : ∃ s', Step t s s' := by
  obtain ⟨visited, pending⟩ := s
  cases pending with
  | nil => exact absurd rfl h
  | cons pid pending =>
      by_cases hpid : pid ∈ visited
      · exact ⟨_, .skip hpid⟩
      · exact ⟨_, .visit hpid (.refl _)⟩

end Search

/-! ## Work -/

/-- The processes whose parent has not been visited. -/
def waiting (t : ProcessTable) (visited : List UInt32) : List Process :=
  t.processes.filter fun p => !p.parent.any (visited.contains ·)

@[simp] theorem waiting_nil (t : ProcessTable) : t.waiting [] = t.processes := by
  simp [waiting]

theorem waiting_concat (t : ProcessTable) (visited : List UInt32) (pid : UInt32) :
    t.waiting (visited ++ [pid]) = othersIn pid (t.waiting visited) := by
  rw [waiting, othersIn, waiting, List.filter_filter]
  refine List.filter_congr fun p _ => ?_
  cases p.parent <;> simp [Bool.and_comm]

theorem childrenIn_waiting {visited : List UInt32} {pid : UInt32} (h : pid ∉ visited) :
    childrenIn pid (t.waiting visited) = childrenIn pid t.processes := by
  rw [childrenIn, waiting, List.filter_filter]
  refine List.filter_congr fun p _ => ?_
  cases hparent : p.parent with
  | none => simp
  | some q =>
      by_cases hq : q = pid
      · simp [hq, h]
      · simp [hq]

namespace Search

/-- What a search has yet to do: look at what is pending, and at the children of every
process that is not visited yet. -/
def work (t : ProcessTable) (s : Search) : Nat := s.pending.length + (t.waiting s.visited).length

/-- Every step does one unit of work. -/
theorem Step.work_eq {s s' : Search} (h : Step t s s') : s.work t = s'.work t + 1 := by
  cases h with
  | skip h => simp only [work, List.length_cons]; omega
  | @visit visited pending children pid h hchildren =>
      have hsplit := length_childrenIn_add pid (t.waiting visited)
      rw [childrenIn_waiting h] at hsplit
      have hlength := hchildren.length_eq
      simp only [work, waiting_concat, List.length_append, List.length_cons, hlength,
        List.length_map]
      omega

theorem Runs.work_eq {s s' : Search} {n : Nat} (h : Runs t s n s') :
    s.work t = s'.work t + n := by
  induction h with
  | zero => rfl
  | succ _ hstep ih => rw [ih, hstep.work_eq]; omega

/-- No search takes more steps than there are processes, and one more. -/
theorem Runs.le_size {s : Search} {n : Nat} (h : Runs t (start root) n s) : n ≤ t.size + 1 := by
  have hwork := h.work_eq
  simp only [work, start, List.length_singleton, waiting_nil] at hwork
  rw [size]
  omega

/-! ## What a search has found -/

/-- All that a search has found belongs to the family, and what it has not found yet lies
below what is pending. -/
structure Sound (t : ProcessTable) (root : UInt32) (s : Search) : Prop where
  first : (s.visited ++ s.pending).head? = some root
  nodup : s.visited.Nodup
  known : ∀ pid ∈ s.visited ++ s.pending, (t.find? pid).isSome = true
  least : ∀ S, t.ClosedFrom root S → ∀ pid ∈ s.visited ++ s.pending, S pid
  closed : ∀ p ∈ t.processes, ∀ q ∈ s.visited, p.parent = some q →
    p.pid ∈ s.visited ++ s.pending

theorem sound_start (h : (t.find? root).isSome = true) : (start root).Sound t root where
  first := rfl
  nodup := List.nodup_nil
  known pid hpid := by
    obtain rfl : pid = root := by simpa [start] using hpid
    exact h
  least S hS pid hpid := by
    obtain rfl : pid = root := by simpa [start] using hpid
    exact hS.1
  closed p _ q hq := by simp [start] at hq

/-- The children of a process that belongs to the family belong to it. -/
theorem Sound.child {s : Search} (h : s.Sound t root) (ht : t.Distinct) {pid child : UInt32}
    (hpid : pid ∈ s.visited ++ s.pending)
    (hchild : child ∈ (childrenIn pid t.processes).map (·.pid)) :
    (t.find? child).isSome = true ∧ ∀ S, t.ClosedFrom root S → S child := by
  obtain ⟨p, hp, rfl⟩ := List.mem_map.1 hchild
  obtain ⟨hp, hparent⟩ := mem_childrenIn.1 hp
  refine ⟨find?_isSome_iff.2 (List.mem_map_of_mem hp), fun S hS => ?_⟩
  exact hS.2 p.pid p pid (ht.find?_eq_some_iff.2 ⟨hp, rfl⟩) hparent (h.least S hS pid hpid)

/-- A step keeps this up. -/
theorem Sound.step {s s' : Search} (h : s.Sound t root) (ht : t.Distinct) (hstep : Step t s s') :
    s'.Sound t root := by
  cases hstep with
  | @skip visited pending pid hpid =>
      have hsub : ∀ x, x ∈ visited ++ pid :: pending → x ∈ visited ++ pending := by
        intro x hx
        rcases List.mem_append.1 hx with hx | hx
        · exact List.mem_append_left _ hx
        · rcases List.mem_cons.1 hx with rfl | hx
          · exact List.mem_append_left _ hpid
          · exact List.mem_append_right _ hx
      have hsup : ∀ x, x ∈ visited ++ pending → x ∈ visited ++ pid :: pending := by
        intro x hx
        rcases List.mem_append.1 hx with hx | hx
        · exact List.mem_append_left _ hx
        · exact List.mem_append_right _ (List.mem_cons_of_mem _ hx)
      refine ⟨?_, h.nodup, fun x hx => h.known x (hsup x hx),
        fun S hS x hx => h.least S hS x (hsup x hx),
        fun p hp q hq hparent => hsub _ (h.closed p hp q hq hparent)⟩
      -- something was visited before, so the first process stands among the visited ones
      cases visited with
      | nil => simp at hpid
      | cons v visited => exact h.first
  | @visit visited pending children pid hpid hchildren =>
      have hmem : pid ∈ visited ++ pid :: pending := by simp
      have hsplit : ∀ x, x ∈ visited ++ [pid] ++ (children ++ pending) →
          x ∈ visited ++ pid :: pending ∨ x ∈ (childrenIn pid t.processes).map (·.pid) := by
        intro x hx
        simp only [List.mem_append, List.mem_singleton, hchildren.mem_iff] at hx
        simp only [List.mem_append, List.mem_cons]
        tauto
      refine ⟨?_, ?_, fun x hx => ?_, fun S hS x hx => ?_, fun p hp q hq hparent => ?_⟩
      · have hfirst := h.first
        cases visited <;> simpa using hfirst
      · exact List.nodup_append.2 ⟨h.nodup, List.nodup_singleton _, by
          rintro a ha _ hb rfl
          exact hpid (List.mem_singleton.1 hb ▸ ha)⟩
      · exact (hsplit x hx).elim (h.known x) fun hchild => (h.child ht hmem hchild).1
      · exact (hsplit x hx).elim (h.least S hS x) fun hchild => (h.child ht hmem hchild).2 S hS
      · rcases List.mem_append.1 hq with hq | hq
        · have hclosed := h.closed p hp q hq hparent
          simp only [List.mem_append, List.mem_cons] at hclosed ⊢
          tauto
        · obtain rfl := List.mem_singleton.1 hq
          have hchild := hchildren.mem_iff.2
            (List.mem_map_of_mem (f := (·.pid)) (mem_childrenIn.2 ⟨hp, hparent⟩))
          exact List.mem_append_right _ (List.mem_append_left _ hchild)

theorem Runs.sound {s : Search} {n : Nat} (h : Runs t (start root) n s) (ht : t.Distinct)
    (hknown : (t.find? root).isSome = true) : s.Sound t root := by
  induction h with
  | zero => exact sound_start hknown
  | succ _ hstep ih => exact ih.step ht hstep

/-- Where nothing is pending, the family has been found. -/
theorem isFamily_of_runs {s : Search} {n : Nat} (h : Runs t (start root) n s) (ht : t.Distinct)
    (hknown : (t.find? root).isSome = true) (hend : s.pending = []) :
    t.IsFamily root s.visited := by
  have hsound := h.sound ht hknown
  obtain ⟨hfirst, hnodup, hfound, hleast, hclosed⟩ := hsound
  rw [hend, List.append_nil] at hfirst hfound hleast hclosed
  refine ⟨hfirst, hnodup, hfound, ⟨List.mem_of_head? hfirst, fun pid p q hp hparent hq => ?_⟩,
    hleast⟩
  obtain ⟨hmem, rfl⟩ := ht.find?_eq_some_iff.1 hp
  exact hclosed p hmem q hq hparent

/-! ## The search that is run -/

/-- What was visited before is dropped, however often it is pending. -/
theorem Runs.skip_all {s : Search} {visited pending dropped : List UInt32} {n : Nat}
    (hdropped : ∀ pid ∈ dropped, pid ∈ visited) (h : Runs t s n ⟨visited, dropped ++ pending⟩) :
    ∃ n', Runs t s n' ⟨visited, pending⟩ := by
  induction dropped generalizing n with
  | nil => exact ⟨n, h⟩
  | cons pid dropped ih =>
      obtain ⟨hpid, hdropped⟩ := List.forall_mem_cons.1 hdropped
      exact ih hdropped (h.succ (.skip hpid))

/-- To visit a process brings none up a second time. -/
theorem nodup_visit {visited pending : List UInt32} {pid : UInt32} {waiting : List Process}
    (h : (visited ++ (pid :: pending ++ waiting.map (·.pid))).Nodup) :
    (visited ++ [pid] ++ ((childrenIn pid waiting).map (·.pid) ++ pending ++
      (othersIn pid waiting).map (·.pid))).Nodup := by
  have hwaiting := (perm_childrenIn_append pid waiting).map (·.pid)
  rw [List.map_append] at hwaiting
  refine List.Perm.nodup ?_ h
  rw [List.append_assoc, List.singleton_append, List.cons_append]
  refine (((hwaiting.append_left pending).trans ?_).cons pid).append_left visited
  rw [← List.append_assoc]
  exact List.perm_append_comm.append_right _

/-- Among the processes other than the first, `descend` does what is left of a search. -/
theorem Runs.descend {s : Search} {waiting : List Process} {visited pending : List UInt32} {n : Nat}
    (hwaiting : waiting = (t.waiting visited).filter (·.pid ≠ root))
    (hroot : root ∈ visited ∨ pending = [root])
    (hnodup : (visited ++ (pending ++ waiting.map (·.pid))).Nodup)
    (h : Runs t s n ⟨visited, pending⟩) :
    ∃ n', Runs t s n' ⟨visited ++ descend waiting pending, []⟩ := by
  induction waiting, pending using descend.induct generalizing visited n with
  | case1 => exact ⟨n, by simpa [ProcessTable.descend] using h⟩
  | case2 waiting pid pending ih =>
      have hpid : pid ∉ visited := fun hmem =>
        (List.nodup_append.1 hnodup).2.2 pid hmem pid (by simp) rfl
      have hroot' : root ∈ visited ++ [pid] := by
        rcases hroot with hroot | hroot
        · exact List.mem_append_left _ hroot
        · simp [(List.cons.inj hroot).1]
      -- the first process may be a child as well; it is looked at first and dropped
      have hchildren : childrenIn pid waiting =
          (childrenIn pid t.processes).filter (·.pid ≠ root) := by
        rw [hwaiting, ← childrenIn_waiting (t := t) hpid]
        exact List.filter_comm _ _ _
      have hperm : (((childrenIn pid t.processes).filter (·.pid = root)).map (·.pid) ++
          (childrenIn pid waiting).map (·.pid)).Perm
            ((childrenIn pid t.processes).map (·.pid)) := by
        rw [hchildren, ← List.map_append]
        simpa using (List.filter_append_perm (·.pid = root) (childrenIn pid t.processes)).map
          (·.pid)
      have hvisit := h.succ (.visit hpid hperm)
      rw [List.append_assoc] at hvisit
      obtain ⟨m, hskipped⟩ := hvisit.skip_all fun x hx => by
        obtain ⟨p, hp, rfl⟩ := List.mem_map.1 hx
        rw [of_decide_eq_true (List.mem_filter.1 hp).2]
        exact hroot'
      have hothers :
          othersIn pid waiting = (t.waiting (visited ++ [pid])).filter (·.pid ≠ root) := by
        rw [waiting_concat, hwaiting]
        exact List.filter_comm _ _ _
      obtain ⟨n', hrest⟩ := ih hothers (.inl hroot') (nodup_visit hnodup) hskipped
      exact ⟨n', by simpa [ProcessTable.descend] using hrest⟩

end Search

/-- The family that is computed is what one of the searches finds. -/
theorem Distinct.runs_family (ht : t.Distinct) (hknown : (t.find? root).isSome = true) :
    ∃ n, Search.Runs t (.start root) n ⟨t.family root, []⟩ := by
  have hnodup : ([root] ++ (t.processes.filter (·.pid ≠ root)).map (·.pid)).Nodup :=
    List.nodup_cons.2 ⟨by simp, ht.sublist (List.filter_sublist.map _)⟩
  have hwaiting : t.processes.filter (·.pid ≠ root) = (t.waiting []).filter (·.pid ≠ root) := by
    rw [waiting_nil]
  obtain ⟨n, hruns⟩ := Search.Runs.zero.descend hwaiting (.inr rfl) hnodup
  exact ⟨n, by rwa [List.nil_append, ← show t.family root = _ from if_pos hknown] at hruns⟩

theorem Distinct.isFamily (ht : t.Distinct) (hknown : (t.find? root).isSome = true) :
    t.IsFamily root (t.family root) := by
  obtain ⟨n, hruns⟩ := ht.runs_family hknown
  exact Search.isFamily_of_runs hruns ht hknown rfl

/-- In whatever order the processes are stored, the same is known of them. -/
theorem Distinct.find?_eq_of_perm {t' : ProcessTable} (ht : t.Distinct)
    (hperm : t'.processes.Perm t.processes) : t'.Distinct ∧ ∀ pid, t.find? pid = t'.find? pid := by
  have ht' : t'.Distinct := (hperm.map Process.pid).nodup_iff.2 ht
  refine ⟨ht', fun pid => Option.ext fun p => ?_⟩
  rw [ht.find?_eq_some_iff, ht'.find?_eq_some_iff, hperm.mem_iff]

end ProcessTable

namespace Session

open ProcessTable

/-- **Families**: take a table that is empty when a run begins.  Afterwards an unknown
process has no family.  The family of a known one is the least list of processes that is
closed downwards from it, each once and the process first, and it is what a search for it
finds.  No search takes more steps than there are processes, and one more; each goes on
until it has found the family, whatever the order in which it comes upon children.  A
table that stores the processes in another order has the same families, up to the order
of the members after the first. -/
theorem family_exact {s : Session} {table : Nat} (h : s.tables[table]? = some ∅)
    (acts : List Act) :
    ∃ t, (s.after acts).tables[table]? = some t ∧ ∀ root,
      (t.find? root = none → t.family root = []) ∧
      ((t.find? root).isSome = true →
        t.IsFamily root (t.family root) ∧
        (∃ n, Search.Runs t (.start root) n ⟨t.family root, []⟩) ∧
        ∀ n search, Search.Runs t (.start root) n search →
          n ≤ t.size + 1 ∧
          (search.pending ≠ [] → ∃ next, Search.Step t search next) ∧
          (search.pending = [] →
            t.IsFamily root search.visited ∧ search.visited.Perm (t.family root))) ∧
      ∀ t' : ProcessTable, t'.processes.Perm t.processes →
        (t'.family root).Perm (t.family root) ∧ (t'.family root).head? = (t.family root).head? := by
  have hdistinct := (Ledger.matches_empty.observeAll (s.observations table acts)).distinct
  refine ⟨_, getElem?_tables_after h acts, fun root => ⟨fun hunknown => ?_, fun hknown => ?_,
    fun t' hperm => ?_⟩⟩
  · rw [family, if_neg (by simp [hunknown])]
  · have hfamily := hdistinct.isFamily hknown
    refine ⟨hfamily, hdistinct.runs_family hknown, fun n search hruns => ⟨hruns.le_size,
      Search.exists_step, fun hend => ?_⟩⟩
    have hfound := Search.isFamily_of_runs hruns hdistinct hknown hend
    exact ⟨hfound, hfound.perm hfamily fun _ => rfl⟩
  · obtain ⟨hdistinct', hsame⟩ := hdistinct.find?_eq_of_perm hperm
    by_cases hknown : (t'.find? root).isSome = true
    · have hfamily := hdistinct.isFamily (hsame root ▸ hknown)
      have hfamily' := hdistinct'.isFamily hknown
      exact ⟨hfamily'.perm hfamily fun pid => (hsame pid).symm,
        hfamily'.first.trans hfamily.first.symm⟩
    · have hunknown := hknown
      rw [← hsame] at hunknown
      rw [family, if_neg hknown, family, if_neg hunknown]
      exact ⟨.refl _, rfl⟩

/-- Processes 1 and 2 are each other's parent, 3 descends from both, and the parent of 4 is
not observed. -/
def tangledActs : List Act :=
  [.register 0 1 (some 2), .register 0 2 (some 1), .register 0 3 (some 2), .register 0 4 (some 9)]

/-- The table that these acts leave. -/
def tangledTable : ProcessTable :=
  ⟨[⟨1, some 2, .zero⟩, ⟨2, some 1, .zero⟩, ⟨3, some 2, .zero⟩, ⟨4, some 9, .zero⟩]⟩

theorem after_tangledActs : (Session.empty.after tangledActs).tables[0]? = some tangledTable := by
  decide +kernel

/-- Of the sample, 9 has no family, and that of 1 is found in at most five steps, whether
the table is kept in this order or in the opposite one. -/
theorem family_exact_sample :
    Session.empty.tables[0]? = some ∅ ∧ tangledTable.family 9 = [] ∧
      tangledTable.IsFamily 1 [1, 2, 3] ∧
      (∃ n, Search.Runs tangledTable (.start 1) n ⟨[1, 2, 3], []⟩ ∧ n ≤ 5) ∧
      (ProcessTable.family ⟨tangledTable.processes.reverse⟩ 1).Perm [1, 2, 3] := by
  have hempty : Session.empty.tables[0]? = some ∅ := rfl
  have hfamily : tangledTable.family 1 = [1, 2, 3] := by cbv
  obtain ⟨t, ht, hfamilies⟩ := family_exact hempty tangledActs
  obtain rfl := Option.some.inj (after_tangledActs.symm.trans ht)
  obtain ⟨hunknown, -, -⟩ := hfamilies 9
  obtain ⟨-, hknown, hperm⟩ := hfamilies 1
  obtain ⟨hexact, ⟨n, hruns⟩, hsearches⟩ := hknown (by decide)
  obtain ⟨hperm, -⟩ := hperm ⟨tangledTable.processes.reverse⟩ (List.reverse_perm _)
  have hsteps := (hsearches n _ hruns).1
  rw [hfamily] at hexact hruns hperm
  exact ⟨hempty, hunknown (by decide), hexact, ⟨n, hruns, hsteps⟩, hperm⟩

end Session

end AccessPolicy
