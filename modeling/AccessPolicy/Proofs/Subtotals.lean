import AccessPolicy.Proofs.Retirement

/-!
# AccessPolicy.Proofs.Subtotals

Totals are exact as long as they fit, and those of a family add up from the families of the
children.

The sum that is kept starts again from zero when one of its numbers does not fit into 64
bits.  Where the exact sums fit, no sum on the way to them starts again:

1. the total of a family is the exact sum of what its members have counted, whatever the
   other classes have counted;
2. so is the total of the three classes.

Where no process below the root of a family descends from itself, the families of the
children have nothing in common.  The family is the root and these families, and so is its
total.

* `SameSum.eq_foldl` — a count with the sums of others is what they add up to;
* `eq_of_common_descendant` — no process descends from two children;
* `Distinct.perm_family_cons` — the family is the root and the families of its children;
* `Distinct.sameSum_aggregate_cons` — so is its total;
* `totals_exact` — all of this, for the tables of a session.
-/

namespace AccessPolicy

/-! ## Sums of sums -/

namespace Tally

variable {a : Tally} {ts : List Tally}

/-- A count with the sums of others is what these add up to, one after the other. -/
theorem SameSum.eq_foldl (h : SameSum [a] ts) : a = ts.foldl (· + ·) zero :=
  (h.trans (sameSum_foldl (h.fitTogether_iff.1 (fitTogether_singleton a))).symm).eq

/-- Several lists of counts that fit together may be replaced by one count each. -/
theorem sameSum_flatMap {α : Type} {count : α → Tally} {counts : α → List Tally}
    (h : ∀ x, FitTogether (counts x) → SameSum [count x] (counts x)) {xs : List α}
    (hfit : FitTogether (xs.flatMap counts)) : SameSum (xs.map count) (xs.flatMap counts) := by
  induction xs with
  | nil => exact .of_perm (.refl _)
  | cons x xs ih =>
      rw [List.flatMap_cons] at hfit ⊢
      exact (h x hfit.left).append (ih hfit.right)

end Tally

namespace ProcessTable

open Relation Tally

variable {t : ProcessTable} {root : UInt32} {cls : IoClass}

/-! ## Families without a cycle -/

/-- No process that descends from `root` descends from itself. -/
def AcyclicBelow (t : ProcessTable) (root : UInt32) : Prop :=
  ∀ pid, ReflTransGen (ParentIn t.processes) root pid → ¬ TransGen (ParentIn t.processes) pid pid

/-- Where every parent has a smaller number than its children, there is no cycle. -/
theorem acyclicBelow_of_lt
    (h : ∀ p ∈ t.processes, ∀ parent, p.parent = some parent → parent < p.pid) (root : UInt32) :
    t.AcyclicBelow root := by
  intro pid _ hcycle
  have hlt {a b : UInt32} (hlinks : TransGen (ParentIn t.processes) a b) : a < b := by
    induction hlinks with
    | single hlink =>
        obtain ⟨p, hp, rfl, hparent⟩ := hlink
        exact h p hp _ hparent
    | tail _ hlink ih =>
        obtain ⟨p, hp, rfl, hparent⟩ := hlink
        exact UInt32.lt_trans ih (h p hp _ hparent)
  exact UInt32.lt_irrefl _ (hlt hcycle)

theorem parentIn_of_mem_childrenIn {p : Process} (hp : p ∈ childrenIn root t.processes) :
    ParentIn t.processes root p.pid :=
  ⟨p, (mem_childrenIn.1 hp).1, rfl, (mem_childrenIn.1 hp).2⟩

/-- A process has one parent. -/
theorem Distinct.parent_unique (h : t.Distinct) {a b child : UInt32}
    (ha : ParentIn t.processes a child) (hb : ParentIn t.processes b child) : a = b := by
  obtain ⟨p, hp, hparent⟩ := h.parentIn_iff.1 ha
  obtain ⟨q, hq, hparent'⟩ := h.parentIn_iff.1 hb
  obtain rfl : p = q := Option.some.inj (hp.symm.trans hq)
  exact Option.some.inj (hparent.symm.trans hparent')

/-- Of two processes with a common descendant, one descends from the other. -/
theorem Distinct.reach_or_reach (h : t.Distinct) {a b x : UInt32}
    (ha : ReflTransGen (ParentIn t.processes) a x)
    (hb : ReflTransGen (ParentIn t.processes) b x) :
    ReflTransGen (ParentIn t.processes) a b ∨ ReflTransGen (ParentIn t.processes) b a := by
  -- from `x` upwards there is one way, on which both lie
  have hunique : Relator.RightUnique (Function.swap (ParentIn t.processes)) :=
    fun _ _ _ => h.parent_unique
  have hways := ReflTransGen.total_of_right_unique hunique (reflTransGen_swap.2 hb)
    (reflTransGen_swap.2 ha)
  exact hways.imp reflTransGen_swap.1 reflTransGen_swap.1

/-- Without a cycle, a child that descends from a child of the same process is that child. -/
theorem Distinct.eq_of_child_reach (h : t.Distinct) (hacyclic : t.AcyclicBelow root) {a b : UInt32}
    (ha : ParentIn t.processes root a) (hb : ParentIn t.processes root b)
    (hreach : ReflTransGen (ParentIn t.processes) a b) : a = b := by
  cases hreach with
  | refl => rfl
  | tail hreach hlink =>
      obtain rfl := h.parent_unique hlink hb
      exact absurd (TransGen.head' ha hreach) (hacyclic _ .refl)

/-- Without a cycle, no process descends from two children. -/
theorem Distinct.eq_of_common_descendant (h : t.Distinct) (hacyclic : t.AcyclicBelow root)
    {a b x : UInt32} (ha : ParentIn t.processes root a) (hb : ParentIn t.processes root b)
    (hax : ReflTransGen (ParentIn t.processes) a x)
    (hbx : ReflTransGen (ParentIn t.processes) b x) : a = b := by
  rcases h.reach_or_reach hax hbx with hreach | hreach
  · exact h.eq_of_child_reach hacyclic ha hb hreach
  · exact (h.eq_of_child_reach hacyclic hb ha hreach).symm

/-- A member of a family is its root or is in the family of a child. -/
theorem mem_family_iff_children (hknown : (t.find? root).isSome = true) {x : UInt32} :
    x ∈ t.family root ↔ x = root ∨ ∃ p ∈ childrenIn root t.processes, x ∈ t.family p.pid := by
  rw [mem_family_iff, and_iff_right hknown, ReflTransGen.cases_head_iff, eq_comm]
  refine or_congr_right ⟨?_, ?_⟩
  · rintro ⟨_, ⟨p, hp, rfl, hparent⟩, hreach⟩
    have hchild := find?_isSome_iff.2 (List.mem_map_of_mem (f := (·.pid)) hp)
    exact ⟨p, mem_childrenIn.2 ⟨hp, hparent⟩, mem_family_iff.2 ⟨hchild, hreach⟩⟩
  · rintro ⟨p, hp, hmem⟩
    exact ⟨p.pid, parentIn_of_mem_childrenIn hp, (mem_family_iff.1 hmem).2⟩

/-- Without a cycle, the root and the families of its children have nothing in common. -/
theorem Distinct.nodup_families (h : t.Distinct) (hacyclic : t.AcyclicBelow root) :
    (root :: (childrenIn root t.processes).flatMap fun p => t.family p.pid).Nodup := by
  have hpids : ((childrenIn root t.processes).map (·.pid)).Nodup :=
    h.sublist (List.filter_sublist.map _)
  refine List.nodup_cons.2 ⟨fun hmem => ?_, List.nodup_flatMap.2
    ⟨fun p _ => h.nodup_family p.pid, (List.Nodup.of_map _ hpids).pairwise_of_forall_ne ?_⟩⟩
  · obtain ⟨p, hp, hbelow⟩ := List.mem_flatMap.1 hmem
    have hcycle := TransGen.head' (parentIn_of_mem_childrenIn hp) (mem_family_iff.1 hbelow).2
    exact hacyclic root .refl hcycle
  · intro p hp q hq hne x hxp hxq
    have hpid := h.eq_of_common_descendant hacyclic (parentIn_of_mem_childrenIn hp)
      (parentIn_of_mem_childrenIn hq) (mem_family_iff.1 hxp).2 (mem_family_iff.1 hxq).2
    exact hne (List.inj_on_of_nodup_map hpids hp hq hpid)

/-- Without a cycle, a family is its root and the families of the children. -/
theorem Distinct.perm_family_cons (h : t.Distinct) (hknown : (t.find? root).isSome = true)
    (hacyclic : t.AcyclicBelow root) :
    (t.family root).Perm
      (root :: (childrenIn root t.processes).flatMap fun p => t.family p.pid) := by
  refine (List.perm_ext_iff_of_nodup (h.nodup_family root) (h.nodup_families hacyclic)).2
    fun x => ?_
  rw [mem_family_iff_children hknown, List.mem_cons, List.mem_flatMap]

/-! ## Totals -/

/-- Without a cycle, what a family has counted is what its root and the families of the
children have. -/
theorem Distinct.perm_familyTallies_cons (h : t.Distinct) {c : Counters}
    (hc : t.counters? root = some c) (hacyclic : t.AcyclicBelow root) (cls : IoClass) :
    (t.familyTallies root cls).Perm
      (c.get cls :: (childrenIn root t.processes).flatMap fun p => t.familyTallies p.pid cls) := by
  obtain ⟨p, hp, rfl⟩ := Option.map_eq_some_iff.1 hc
  have hfamily := h.perm_family_cons (by rw [hp]; rfl) hacyclic
  have hcounters := (hfamily.filterMap t.counters?).map (·.get cls)
  rw [List.filterMap_cons_some hc, List.map_cons, List.filterMap_flatMap, List.map_flatMap]
    at hcounters
  exact hcounters

/-- Without a cycle, the total of a family that fits is what its root has counted and the
totals of the families of the children. -/
theorem Distinct.sameSum_aggregate_cons (h : t.Distinct) {c : Counters}
    (hc : t.counters? root = some c) (hacyclic : t.AcyclicBelow root)
    (hfit : FitTogether (t.familyTallies root cls)) :
    SameSum [(t.aggregate root).get cls]
      (c.get cls :: (childrenIn root t.processes).map fun p => (t.aggregate p.pid).get cls) := by
  have hperm := h.perm_familyTallies_cons hc hacyclic cls
  have hchildren : SameSum
      ((childrenIn root t.processes).map fun p => (t.aggregate p.pid).get cls)
      ((childrenIn root t.processes).flatMap fun p => t.familyTallies p.pid cls) :=
    sameSum_flatMap (fun _ => sameSum_aggregate) ((fitTogether_perm hperm).1 hfit).tail
  have hfamily := (sameSum_aggregate hfit).trans (.of_perm hperm)
  exact hfamily.trans (hchildren.symm.append_left [c.get cls])

/-- An unknown process has no family, and nothing is its total. -/
theorem aggregate_of_find?_none (h : t.find? root = none) : t.aggregate root = .zero := by
  rw [aggregate, familyCounters, family, h]
  rfl

end ProcessTable

/-! ## Runs -/

namespace Session

open Tally

/-- **Totals that fit**: take a table that is empty when a run begins.

1. Where the exact sums of a class over the members of a family fit into 64 bits, they are
   the total of the family, in whatever order its members are visited.
2. An unknown process has nothing as total.
3. If no process below a known one descends from itself, the total is what the process has
   counted and the totals of its children, where the exact sums fit.

Where the exact sums of the three classes fit, they are the total of the classes. -/
theorem totals_exact {s : Session} {table : Nat} (h : s.tables[table]? = some ∅)
    (acts : List Act) :
    (∃ t, (s.after acts).tables[table]? = some t ∧
      (∀ root cls, FitTogether (t.familyTallies root cls) →
        SameSum [(t.aggregate root).get cls] (t.familyTallies root cls) ∧
        ∀ members, members.Perm (t.family root) →
          SameSum [(t.sumOver members).get cls] (t.familyTallies root cls)) ∧
      (∀ root, t.find? root = none → t.aggregate root = .zero) ∧
      ∀ root c, t.counters? root = some c → t.AcyclicBelow root →
        ∀ cls, FitTogether (t.familyTallies root cls) →
          let parts := c.get cls ::
            (ProcessTable.childrenIn root t.processes).map fun p => (t.aggregate p.pid).get cls
          SameSum [(t.aggregate root).get cls] parts ∧
            (t.aggregate root).get cls = parts.foldl (· + ·) .zero) ∧
    ∀ c : Counters, FitTogether [c.read, c.write, c.other] →
      SameSum [c.total] [c.read, c.write, c.other] := by
  have hdistinct := (Ledger.matches_empty.observeAll (s.observations table acts)).distinct
  refine ⟨⟨_, getElem?_tables_after h acts, fun root cls hfit => ?_,
    fun root => ProcessTable.aggregate_of_find?_none, fun root c hc hacyclic cls hfit => ?_⟩,
    fun c hfit => ?_⟩
  · refine ⟨ProcessTable.sameSum_aggregate hfit, fun members hmembers => ?_⟩
    rw [ProcessTable.get_sumOver_of_fitTogether hfit hmembers]
    exact ProcessTable.sameSum_aggregate hfit
  · have hparts := hdistinct.sameSum_aggregate_cons hc hacyclic hfit
    exact ⟨hparts, hparts.eq_foldl⟩
  · rw [c.total_eq_foldl]
    exact sameSum_foldl hfit

/-- Of process 1 descend 2 and 3, and of 2 descends 4.  They read little, but 2 and 4 write
more bytes than can be counted. -/
def lineageActs : List Act :=
  [.register 0 1 none, .register 0 2 (some 1), .register 0 3 (some 1), .register 0 4 (some 2),
    .record 0 1 .read 5, .record 0 3 .read 7, .record 0 4 .read 11,
    .record 0 2 .write 18446744073709551615, .record 0 4 .write 1]

/-- The table that these acts leave. -/
def lineageTable : ProcessTable :=
  ⟨[⟨1, none, ⟨⟨1, 5⟩, .zero, .zero⟩⟩, ⟨2, some 1, ⟨.zero, ⟨1, 18446744073709551615⟩, .zero⟩⟩,
    ⟨3, some 1, ⟨⟨1, 7⟩, .zero, .zero⟩⟩, ⟨4, some 2, ⟨⟨1, 11⟩, ⟨1, 1⟩, .zero⟩⟩]⟩

/-- What the sample reads adds up from child to parent, although what it writes does not
fit. -/
theorem totals_exact_sample :
    (Session.empty.after lineageActs).tables[0]? = some lineageTable ∧
      ¬ FitTogether (lineageTable.familyTallies 1 .write) ∧
      SameSum [(lineageTable.aggregate 1).get .read] (lineageTable.familyTallies 1 .read) ∧
      lineageTable.aggregate 9 = .zero ∧
      (lineageTable.aggregate 1).get .read = [⟨1, 5⟩, (lineageTable.aggregate 2).get .read,
        (lineageTable.aggregate 3).get .read].foldl (· + ·) .zero ∧
      SameSum [(⟨⟨1, 5⟩, ⟨2, 0⟩, ⟨3, 1⟩⟩ : Counters).total] [⟨1, 5⟩, ⟨2, 0⟩, ⟨3, 1⟩] := by
  have htable : (Session.empty.after lineageActs).tables[0]? = some lineageTable := by
    decide +kernel
  have hwritten : ¬ FitTogether (lineageTable.familyTallies 1 .write) := by decide +kernel
  have hread : FitTogether (lineageTable.familyTallies 1 .read) := by decide +kernel
  have hacyclic : lineageTable.AcyclicBelow 1 :=
    ProcessTable.acyclicBelow_of_lt (by simp [lineageTable]) 1
  have hempty : Session.empty.tables[0]? = some ∅ := rfl
  obtain ⟨⟨t, ht, hexact, hunknown, hparts⟩, htotal⟩ := totals_exact hempty lineageActs
  obtain rfl := Option.some.inj (htable.symm.trans ht)
  obtain ⟨-, hsum⟩ := hparts 1 _ rfl hacyclic .read hread
  exact ⟨htable, hwritten, (hexact 1 .read hread).1, hunknown 9 rfl, hsum,
    htotal ⟨⟨1, 5⟩, ⟨2, 0⟩, ⟨3, 1⟩⟩ (by decide)⟩

end Session

end AccessPolicy
