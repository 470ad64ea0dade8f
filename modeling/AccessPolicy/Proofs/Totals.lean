import AccessPolicy.Proofs.Runs
import Mathlib.Data.List.Induction

/-!
# AccessPolicy.Proofs.Totals

When the total of several counts depends on the order in which they are added.

Counts are added one after the other, and a sum that does not fit into 64 bits starts
again from zero.  What is added after such a restart is kept, so that the order matters.
It does not matter where an overflow takes every count with it:

1. counts of nothing may be left out;
2. if all counts but any one of the others fit together, the sum can only overflow with
   the last one, whichever that is;
3. the total is then the exact sum if that fits, and zero otherwise.

* `foldl_add_eq_atOnce` — rule 3;
* `FitTogether.orderFree`, `orderFree_of_length_counted_le` — so it is if all counts fit, or if
  no more than two count something;
* `sumOver_depends_on_order` — three processes may have one total or another;
* `totals_order_free` — rules 1 to 3 for families of processes and for classes.
-/

namespace AccessPolicy

namespace Tally

/-! ## Exact sums -/

/-- The exact sum of one number of several counts. -/
def exactSum (number : Tally → UInt64) : List Tally → Nat
  | [] => 0
  | t :: ts => (number t).toNat + exactSum number ts

/-- Whether the operations and the bytes of several counts fit into 64 bits together. -/
def FitTogether (ts : List Tally) : Prop :=
  exactSum operations ts < UInt64.size ∧ exactSum bytes ts < UInt64.size

instance (ts : List Tally) : Decidable (FitTogether ts) := inferInstanceAs (Decidable (_ ∧ _))

/-- Several counts added all at once: the exact sums, or zero if they do not fit. -/
def atOnce (ts : List Tally) : Tally :=
  if FitTogether ts then ⟨.ofNat (exactSum operations ts), .ofNat (exactSum bytes ts)⟩ else zero

variable {number : Tally → UInt64} {ts us : List Tally}

theorem exactSum_concat (ts : List Tally) (t : Tally) :
    exactSum number (ts ++ [t]) = exactSum number ts + (number t).toNat := by
  induction ts with
  | nil => simp only [List.nil_append, exactSum, Nat.add_comm]
  | cons u us ih => simp only [List.cons_append, exactSum, ih, Nat.add_assoc]

theorem exactSum_perm (h : ts.Perm us) : exactSum number ts = exactSum number us := by
  induction h with
  | nil => rfl
  | cons t _ ih => simp only [exactSum, ih]
  | swap t u _ => simp only [exactSum, Nat.add_left_comm]
  | trans _ _ ih ih' => exact ih.trans ih'

theorem fitTogether_perm (h : ts.Perm us) : FitTogether ts ↔ FitTogether us := by
  simp only [FitTogether, exactSum_perm h]

/-- What is added at once may be added in any order. -/
theorem atOnce_perm (h : ts.Perm us) : atOnce ts = atOnce us := by
  simp only [atOnce, fitTogether_perm h, exactSum_perm h]

theorem fitTogether_of_concat {t : Tally} (h : FitTogether (ts ++ [t])) : FitTogether ts := by
  simp only [FitTogether, exactSum_concat] at h
  exact ⟨Nat.lt_of_le_of_lt (Nat.le_add_right ..) h.1,
    Nat.lt_of_le_of_lt (Nat.le_add_right ..) h.2⟩

/-! ## One count after the other -/

/-- On top of counts that fit, one more count fits or the sum starts again from zero. -/
theorem atOnce_concat {t : Tally} (h : FitTogether ts) : atOnce (ts ++ [t]) = atOnce ts + t := by
  have hfirst : atOnce ts = ⟨.ofNat (exactSum operations ts), .ofNat (exactSum bytes ts)⟩ :=
    if_pos h
  have hoperations : (atOnce ts).operations.toNat = exactSum operations ts := by
    rw [hfirst]
    exact UInt64.toNat_ofNat_of_lt' h.1
  have hbytes : (atOnce ts).bytes.toNat = exactSum bytes ts := by
    rw [hfirst]
    exact UInt64.toNat_ofNat_of_lt' h.2
  have hfits : (atOnce ts).fits t = true ↔ FitTogether (ts ++ [t]) := by
    simp only [fits, hoperations, hbytes, FitTogether, exactSum_concat, Bool.and_eq_true,
      decide_eq_true_eq]
  rw [add_def, atOnce]
  by_cases hall : FitTogether (ts ++ [t])
  · rw [if_pos hall, if_pos (hfits.2 hall)]
    simp only [exactSum_concat, hfirst, UInt64.ofNat_add, UInt64.ofNat_toNat]
  · rw [if_neg hall, if_neg (mt hfits.1 hall)]

/-- Counts that fit together have their exact sum as total. -/
theorem foldl_add_of_fitTogether (h : FitTogether ts) : ts.foldl (· + ·) zero = atOnce ts := by
  induction ts using List.reverseRecOn with
  | nil => rfl
  | append_singleton ts t ih =>
      have hfirst := fitTogether_of_concat h
      rw [List.foldl_append, ih hfirst, atOnce_concat hfirst]
      rfl

/-! ## Counts in any order -/

/-- The counts of something. -/
def counted (ts : List Tally) : List Tally := ts.filter (· ≠ zero)

/-- All but any one of the counts of something fit together. -/
def OrderFree (ts : List Tally) : Prop := ∀ t ∈ counted ts, FitTogether ((counted ts).erase t)

instance (ts : List Tally) : Decidable (OrderFree ts) :=
  inferInstanceAs (Decidable (∀ t ∈ counted ts, _))

theorem counted_concat (ts : List Tally) (t : Tally) :
    counted (ts ++ [t]) = if t = zero then counted ts else counted ts ++ [t] := by
  by_cases ht : t = zero <;> simp [counted, List.filter_append, ht]

/-- Counts of nothing add nothing, one after the other. -/
theorem foldl_add_counted (ts : List Tally) :
    (counted ts).foldl (· + ·) zero = ts.foldl (· + ·) zero := by
  induction ts using List.reverseRecOn with
  | nil => rfl
  | append_singleton ts t ih =>
      rw [counted_concat, List.foldl_append]
      split
      · rename_i ht
        rw [ih, ht]
        exact (add_zero _).symm
      · rw [List.foldl_append, ih]

theorem exactSum_counted (number : Tally → UInt64) (hzero : number zero = 0) (ts : List Tally) :
    exactSum number (counted ts) = exactSum number ts := by
  induction ts using List.reverseRecOn with
  | nil => rfl
  | append_singleton ts t ih =>
      rw [counted_concat, exactSum_concat]
      split
      · rename_i ht
        rw [ih, ht, hzero]
        rfl
      · rw [exactSum_concat, ih]

theorem fitTogether_counted (ts : List Tally) : FitTogether (counted ts) ↔ FitTogether ts := by
  simp only [FitTogether, exactSum_counted operations rfl, exactSum_counted bytes rfl]

/-- Counts of nothing add nothing, all at once. -/
theorem atOnce_counted (ts : List Tally) : atOnce (counted ts) = atOnce ts := by
  simp only [atOnce, fitTogether_counted, exactSum_counted operations rfl,
    exactSum_counted bytes rfl]

/-- If all counts fit together, so do all but one. -/
theorem FitTogether.orderFree (h : FitTogether ts) : OrderFree ts := by
  intro t ht
  have hlast : (counted ts).Perm ((counted ts).erase t ++ [t]) :=
    (List.perm_cons_erase ht).trans (List.perm_append_singleton ..).symm
  exact fitTogether_of_concat ((fitTogether_perm hlast).1 ((fitTogether_counted ts).2 h))

theorem fitTogether_of_length_le (h : ts.length ≤ 1) : FitTogether ts := by
  match ts, h with
  | [], _ => decide
  | [t], _ => exact ⟨t.operations.toNat_lt_size, t.bytes.toNat_lt_size⟩

/-- Of two counts of something, either fits alone. -/
theorem orderFree_of_length_counted_le (h : (counted ts).length ≤ 2) : OrderFree ts := by
  intro t ht
  refine fitTogether_of_length_le ?_
  rw [List.length_erase_of_mem ht]
  exact Nat.sub_le_iff_le_add.2 h

theorem OrderFree.perm (h : OrderFree ts) (hperm : ts.Perm us) : OrderFree us := by
  have hcounted : (counted ts).Perm (counted us) := hperm.filter _
  intro t ht
  exact (fitTogether_perm (hcounted.erase t)).1 (h t (hcounted.mem_iff.2 ht))

/-- Where an overflow takes all counts with it, the total is that of all counts at once. -/
theorem foldl_add_eq_atOnce (h : OrderFree ts) : ts.foldl (· + ·) zero = atOnce ts := by
  rw [← foldl_add_counted, ← atOnce_counted]
  unfold OrderFree at h
  generalize counted ts = cs at h
  -- only the last of the counts can overflow, so what comes before it is exact
  rcases List.eq_nil_or_concat cs with rfl | ⟨rest, t, rfl⟩
  · rfl
  · rw [List.concat_eq_append] at h ⊢
    have hlast : ((rest ++ [t]).erase t).Perm rest := by
      simpa using (List.perm_append_singleton t rest).erase t
    have hrest : FitTogether rest := (fitTogether_perm hlast).1 (h t (by simp))
    rw [List.foldl_append, foldl_add_of_fitTogether hrest, atOnce_concat hrest]
    rfl

end Tally

/-! ## Classes -/

theorem Counters.get_foldl_add (before : Counters) (cs : List Counters) (cls : IoClass) :
    (cs.foldl add before).get cls = (cs.map (·.get cls)).foldl (· + ·) (before.get cls) := by
  induction cs generalizing before with
  | nil => rfl
  | cons c cs ih =>
      have hadd : (before.add c).get cls = before.get cls + c.get cls := by cases cls <;> rfl
      rw [List.foldl_cons, ih, hadd]
      rfl

/-- The sum of a class is that of the counts of the class. -/
theorem Counters.get_sum (cs : List Counters) (cls : IoClass) :
    (sum cs).get cls = (cs.map (·.get cls)).foldl (· + ·) .zero := by
  rw [sum, get_foldl_add]
  cases cls <;> rfl

/-- The total is the sum of the three classes. -/
theorem Counters.total_eq_foldl (c : Counters) :
    c.total = [c.read, c.write, c.other].foldl (· + ·) .zero := by
  simp only [total, List.foldl_cons, List.foldl_nil, Tally.zero_add]

/-! ## Families -/

namespace ProcessTable

/-- The counts of some processes together, visited in this order. -/
def sumOver (t : ProcessTable) (members : List UInt32) : Counters :=
  .sum (members.filterMap t.counters?)

theorem aggregate_eq_sumOver (t : ProcessTable) (root : UInt32) :
    t.aggregate root = t.sumOver (t.family root) := rfl

/-- The counts of a class of the members of a family. -/
def familyTallies (t : ProcessTable) (root : UInt32) (cls : IoClass) : List Tally :=
  (t.familyCounters root).map (·.get cls)

/-- Whatever the order in which a family is visited, its total is that of all at once. -/
theorem get_sumOver_of_orderFree {t : ProcessTable} {root : UInt32} {cls : IoClass}
    (h : Tally.OrderFree (t.familyTallies root cls)) {members : List UInt32}
    (hmembers : members.Perm (t.family root)) :
    (t.sumOver members).get cls = Tally.atOnce (t.familyTallies root cls) := by
  have hperm : ((members.filterMap t.counters?).map (·.get cls)).Perm (t.familyTallies root cls) :=
    (hmembers.filterMap t.counters?).map _
  rw [sumOver, Counters.get_sum, Tally.foldl_add_eq_atOnce (h.perm hperm.symm),
    Tally.atOnce_perm hperm]

end ProcessTable

namespace Session

/-- A process and its two children read, one of them as much as can be counted. -/
def overflowActs : List Act :=
  [.register 0 1 none, .register 0 2 (some 1), .register 0 3 (some 1), .record 0 1 .read 1,
    .record 0 2 .read 18446744073709551615, .record 0 3 .read 1]

/-- The table that these acts leave. -/
def overflowTable : ProcessTable :=
  ⟨[⟨1, none, ⟨⟨1, 1⟩, .zero, .zero⟩⟩,
    ⟨2, some 1, ⟨⟨1, 18446744073709551615⟩, .zero, .zero⟩⟩,
    ⟨3, some 1, ⟨⟨1, 1⟩, .zero, .zero⟩⟩]⟩

/-- What is counted after an overflow stays: the total of this family depends on which
child comes first, and the total of three classes on which class comes last. -/
theorem sumOver_depends_on_order :
    (∃ t, (Session.empty.after overflowActs).tables[0]? = some t ∧ t.family 1 = [1, 2, 3] ∧
      [1, 3, 2].Perm (t.family 1) ∧ (t.sumOver [1, 2, 3]).read = ⟨1, 1⟩ ∧
      (t.sumOver [1, 3, 2]).read = ⟨0, 0⟩) ∧
    (⟨⟨1, 1⟩, ⟨1, 18446744073709551615⟩, ⟨1, 1⟩⟩ : Counters).total = ⟨1, 1⟩ ∧
    (⟨⟨1, 1⟩, ⟨1, 1⟩, ⟨1, 18446744073709551615⟩⟩ : Counters).total = ⟨0, 0⟩ := by
  have htable : (Session.empty.after overflowActs).tables[0]? = some overflowTable := rfl
  have hfamily : overflowTable.family 1 = [1, 2, 3] := by cbv
  have hperm : [1, 3, 2].Perm (overflowTable.family 1) := by
    rw [hfamily]
    decide
  exact ⟨⟨overflowTable, htable, hfamily, hperm, rfl, rfl⟩, rfl, rfl⟩

/-- **Totals**: take a class of the members of a family in which an overflow takes all
counts with it.  In whatever order the members are visited, its total is the one that is
reported for the family, also when the family is retired.  So it is with the total of
the three classes, in whatever order they are added. -/
theorem totals_order_free {s : Session} {table : Nat} {t : ProcessTable}
    (ht : s.tables[table]? = some t) (root : UInt32) :
    (∀ cls, Tally.OrderFree (t.familyTallies root cls) →
      ∀ members, members.Perm (t.family root) →
        (t.sumOver members).get cls = (t.aggregate root).get cls) ∧
    (s.perform (.retire table root)).answer = .counters (t.aggregate root) ∧
    ∀ c d : Counters, [d.read, d.write, d.other].Perm [c.read, c.write, c.other] →
      Tally.OrderFree [c.read, c.write, c.other] → d.total = c.total := by
  refine ⟨fun cls hfree members hmembers => ?_, ?_, fun c d hperm hfree => ?_⟩
  · rw [ProcessTable.get_sumOver_of_orderFree hfree hmembers,
      ProcessTable.aggregate_eq_sumOver, ProcessTable.get_sumOver_of_orderFree hfree (.refl _)]
  · simp only [perform, onTable, ht]
  · rw [Counters.total_eq_foldl, Counters.total_eq_foldl, Tally.foldl_add_eq_atOnce hfree,
      Tally.foldl_add_eq_atOnce (hfree.perm hperm.symm), Tally.atOnce_perm hperm]

/-- A process and its two children write; any two of the numbers of bytes fit into 64
bits, and all three do not. -/
def lastOverflowActs : List Act :=
  [.register 0 1 none, .register 0 2 (some 1), .register 0 3 (some 1),
    .record 0 1 .write 9223372036854775808, .record 0 2 .write 4611686018427387904,
    .record 0 3 .write 4611686018427387904]

/-- The table that these acts leave. -/
def lastOverflowTable : ProcessTable :=
  ⟨[⟨1, none, ⟨.zero, ⟨1, 9223372036854775808⟩, .zero⟩⟩,
    ⟨2, some 1, ⟨.zero, ⟨1, 4611686018427387904⟩, .zero⟩⟩,
    ⟨3, some 1, ⟨.zero, ⟨1, 4611686018427387904⟩, .zero⟩⟩]⟩

/-- In either order of the children, the whole of this family starts again from zero. -/
theorem totals_order_free_sample :
    (Session.empty.after lastOverflowActs).tables[0]? = some lastOverflowTable ∧
      [1, 3, 2].Perm (lastOverflowTable.family 1) ∧
      (lastOverflowTable.sumOver [1, 3, 2]).get .write =
        (lastOverflowTable.aggregate 1).get .write ∧
      ((Session.empty.after lastOverflowActs).perform (.retire 0 1)).answer =
        .counters (lastOverflowTable.aggregate 1) ∧
      (⟨⟨2, 3⟩, .zero, ⟨5, 18446744073709551615⟩⟩ : Counters).total =
        (⟨⟨5, 18446744073709551615⟩, ⟨2, 3⟩, .zero⟩ : Counters).total := by
  have htable : (Session.empty.after lastOverflowActs).tables[0]? = some lastOverflowTable := rfl
  have hfamily : lastOverflowTable.family 1 = [1, 2, 3] := by cbv
  have hperm : [1, 3, 2].Perm (lastOverflowTable.family 1) := by
    rw [hfamily]
    decide
  have htallies : lastOverflowTable.familyTallies 1 .write =
      [⟨1, 9223372036854775808⟩, ⟨1, 4611686018427387904⟩, ⟨1, 4611686018427387904⟩] := by
    rw [ProcessTable.familyTallies, ProcessTable.familyCounters, hfamily]
    rfl
  have hfree : Tally.OrderFree (lastOverflowTable.familyTallies 1 .write) := by
    rw [htallies]
    decide
  obtain ⟨hvisits, hretired, htotals⟩ := totals_order_free htable 1
  exact ⟨htable, hperm, hvisits .write hfree _ hperm, hretired,
    htotals ⟨⟨5, 18446744073709551615⟩, ⟨2, 3⟩, .zero⟩ _ (by decide)
      (Tally.orderFree_of_length_counted_le (by decide))⟩

end Session

end AccessPolicy
