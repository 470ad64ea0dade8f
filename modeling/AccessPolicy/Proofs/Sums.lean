import AccessPolicy.Proofs.Ledger
import AccessPolicy.Proofs.Totals

/-!
# AccessPolicy.Proofs.Sums

Exact sums of counts, and what an observation adds to those of a table.

Two lists of counts have the same sums when their operations and their bytes add up to
the same numbers, however many bits these take.  Where they fit into 64 bits, the sums
that are kept are exact.

* `sameSum_foldl` — counts that fit together may be replaced by their total;
* `Distinct.sameSum_noted` — what is noted of a process is added to the counts of all.
-/

namespace AccessPolicy

/-! ## Lists of counts with one sum -/

namespace Tally

/-- Two lists of counts have the same exact sums. -/
structure SameSum (ts us : List Tally) : Prop where
  operations : exactSum operations ts = exactSum operations us
  bytes : exactSum bytes ts = exactSum bytes us

variable {number : Tally → UInt64} {ts us vs ws : List Tally} {a b : Tally}

theorem exactSum_append (ts us : List Tally) :
    exactSum number (ts ++ us) = exactSum number ts + exactSum number us := by
  induction ts with
  | nil => exact (Nat.zero_add _).symm
  | cons t ts ih => simp only [List.cons_append, exactSum, ih, Nat.add_assoc]

theorem exactSum_singleton (t : Tally) : exactSum number [t] = (number t).toNat := Nat.add_zero _

theorem SameSum.of_perm (h : ts.Perm us) : SameSum ts us := ⟨exactSum_perm h, exactSum_perm h⟩

theorem SameSum.symm (h : SameSum ts us) : SameSum us ts := ⟨h.operations.symm, h.bytes.symm⟩

theorem SameSum.trans (h : SameSum ts us) (h' : SameSum us vs) : SameSum ts vs :=
  ⟨h.operations.trans h'.operations, h.bytes.trans h'.bytes⟩

theorem SameSum.append (h : SameSum ts us) (h' : SameSum vs ws) :
    SameSum (ts ++ vs) (us ++ ws) := by
  refine ⟨?_, ?_⟩
  · rw [exactSum_append, exactSum_append, h.operations, h'.operations]
  · rw [exactSum_append, exactSum_append, h.bytes, h'.bytes]

theorem SameSum.append_right (h : SameSum ts us) (vs : List Tally) :
    SameSum (ts ++ vs) (us ++ vs) :=
  h.append (.of_perm (.refl vs))

theorem SameSum.append_left (h : SameSum ts us) (vs : List Tally) :
    SameSum (vs ++ ts) (vs ++ us) :=
  SameSum.append (.of_perm (.refl vs)) h

theorem SameSum.fitTogether_iff (h : SameSum ts us) : FitTogether ts ↔ FitTogether us := by
  rw [FitTogether, FitTogether, h.operations, h.bytes]

/-- Counts with the same sums are equal. -/
theorem SameSum.eq (h : SameSum [a] [b]) : a = b := by
  have hoperations := h.operations
  have hbytes := h.bytes
  simp only [exactSum_singleton, UInt64.toNat_inj] at hoperations hbytes
  cases a
  cases b
  simp_all

theorem sameSum_zero_cons (ts : List Tally) : SameSum (zero :: ts) ts :=
  ⟨Nat.zero_add _, Nat.zero_add _⟩

theorem FitTogether.left (h : FitTogether (ts ++ us)) : FitTogether ts := by
  simp only [FitTogether, exactSum_append] at h
  exact ⟨Nat.lt_of_le_of_lt (Nat.le_add_right ..) h.1,
    Nat.lt_of_le_of_lt (Nat.le_add_right ..) h.2⟩

theorem FitTogether.right (h : FitTogether (ts ++ us)) : FitTogether us :=
  FitTogether.left ((fitTogether_perm List.perm_append_comm).1 h)

theorem FitTogether.tail (h : FitTogether (a :: ts)) : FitTogether ts := by
  rw [← List.singleton_append] at h
  exact h.right

theorem fitTogether_singleton (a : Tally) : FitTogether [a] := by
  rw [FitTogether, exactSum_singleton, exactSum_singleton]
  exact ⟨a.operations.toNat_lt_size, a.bytes.toNat_lt_size⟩

theorem fits_iff_fitTogether : a.fits b = true ↔ FitTogether [a, b] := by
  simp only [fits, FitTogether, exactSum, Nat.add_zero, Bool.and_eq_true, decide_eq_true_eq]

/-- A sum that fits has the sums of its summands. -/
theorem sameSum_add (h : FitTogether [a, b]) : SameSum [a + b] [a, b] := by
  obtain ⟨hoperations, hbytes⟩ := toNat_add_of_fits (fits_iff_fitTogether.2 h)
  refine ⟨?_, ?_⟩
  · simp only [exactSum, hoperations, Nat.add_zero]
  · simp only [exactSum, hbytes, Nat.add_zero]

theorem sameSum_atOnce (h : FitTogether ts) : SameSum [atOnce ts] ts := by
  rw [atOnce, if_pos h]
  refine ⟨?_, ?_⟩
  · rw [exactSum_singleton]
    exact UInt64.toNat_ofNat_of_lt' h.1
  · rw [exactSum_singleton]
    exact UInt64.toNat_ofNat_of_lt' h.2

/-- What is added one after the other, and fits, has the sums of its summands. -/
theorem sameSum_foldl (h : FitTogether ts) : SameSum [ts.foldl (· + ·) zero] ts := by
  rw [foldl_add_of_fitTogether h]
  exact sameSum_atOnce h

end Tally

/-! ## What an observation does to the counts -/

namespace ProcessTable

open Tally

variable {t : ProcessTable} {cls : IoClass}

/-- The counts of a class of all processes. -/
def tallies (t : ProcessTable) (cls : IoClass) : List Tally :=
  t.processes.map (·.counters.get cls)

/-- A change replaces one process and leaves the rest. -/
theorem Distinct.exists_perm_alter (h : t.Distinct) (pid : UInt32) (change : Process → Process) :
    ∃ rest, t.processes.Perm ((t.find? pid).toList ++ rest) ∧
      (t.alter pid change).processes.Perm (change ((t.find? pid).getD (.fresh pid)) :: rest) := by
  unfold ProcessTable.alter
  cases hfound : t.find? pid with
  | none => exact ⟨t.processes, .refl _, List.perm_append_singleton _ _⟩
  | some p =>
      obtain ⟨hp, rfl⟩ := h.find?_eq_some_iff.1 hfound
      obtain ⟨xs, ys, hsplit⟩ := List.append_of_mem hp
      refine ⟨xs ++ ys, hsplit ▸ List.perm_middle, ?_⟩
      have hother (q : Process) (hq : q ∈ xs ++ ys) : q.pid ≠ p.pid := by
        rw [Distinct, hsplit, ((List.perm_middle (a := p)).map _).nodup_iff, List.map_cons,
          List.nodup_cons] at h
        intro hsame
        exact h.1 (hsame ▸ List.mem_map_of_mem hq)
      have hkept (qs : List Process) (hqs : ∀ q ∈ qs, q ∈ xs ++ ys) :
          (qs.map fun q => if q.pid = p.pid then change q else q) = qs :=
        (List.map_congr_left fun q hq => if_neg (hother q (hqs q hq))).trans (List.map_id _)
      have hxs := hkept xs fun q hq => List.mem_append_left _ hq
      have hys := hkept ys fun q hq => List.mem_append_right _ hq
      simp only [Option.isSome_some, if_true, hsplit, List.map_append, List.map_cons, hxs, hys,
        Option.getD_some]
      exact List.perm_middle

/-- A change replaces the count of one process, which is nothing before it is seen. -/
theorem Distinct.exists_sameSum_alter (h : t.Distinct) (cls : IoClass) (pid : UInt32)
    (change : Process → Process) :
    ∃ rest, SameSum (t.tallies cls) (((t.find? pid).getD (.fresh pid)).counters.get cls :: rest) ∧
      SameSum ((t.alter pid change).tallies cls)
        ((change ((t.find? pid).getD (.fresh pid))).counters.get cls :: rest) := by
  obtain ⟨rest, hbefore, hafter⟩ := h.exists_perm_alter pid change
  let count (p : Process) : Tally := p.counters.get cls
  refine ⟨rest.map count, ?_, .of_perm (hafter.map count)⟩
  refine (SameSum.of_perm (hbefore.map count)).trans ?_
  cases t.find? pid with
  | some p => exact .of_perm (.refl _)
  | none =>
      have hfresh : (Process.fresh pid).counters.get cls = zero := by cases cls <;> rfl
      rw [Option.getD_none, hfresh]
      exact (sameSum_zero_cons _).symm

/-- What is noted of a process is added to its count, where it fits. -/
theorem sameSum_apply {note : Note} {p : Process}
    (hfit : FitTogether (p.counters.get cls :: Note.tallies cls [note])) :
    SameSum [(note.apply p).counters.get cls]
      (p.counters.get cls :: Note.tallies cls [note]) := by
  have hnote : Note.tallies cls [note] =
      ((note.operation.filter (·.1 = cls)).map fun o => ⟨1, o.2⟩).toList := by
    cases hop : note.operation with
    | none => simp [Note.tallies, hop]
    | some o => by_cases ho : o.1 = cls <;> simp [Note.tallies, hop, ho, Option.filter]
  rw [Note.get_counters_apply]
  rw [hnote] at hfit ⊢
  cases hop : note.operation.filter (·.1 = cls) with
  | none => exact .of_perm (.refl _)
  | some o =>
      rw [hop] at hfit
      exact sameSum_add hfit

/-- What is noted of a process is added to the counts of all, where its count has room. -/
theorem Distinct.sameSum_noted (h : t.Distinct) (pid : UInt32) {note : Note}
    (hfit : FitTogether
      (((t.find? pid).getD (.fresh pid)).counters.get cls :: Note.tallies cls [note])) :
    SameSum ((t.alter pid note.apply).tallies cls) (t.tallies cls ++ Note.tallies cls [note]) := by
  obtain ⟨rest, hbefore, hafter⟩ := h.exists_sameSum_alter cls pid note.apply
  have hmoved := (sameSum_apply hfit).append_right rest
  refine (hafter.trans hmoved).trans (.trans (.of_perm ?_) (hbefore.symm.append_right _))
  exact (List.perm_append_comm.cons _)

/-- Where all counts have room for what is noted of a process, its own count has. -/
theorem Distinct.fitTogether_noted (h : t.Distinct) (pid : UInt32) {ts : List Tally}
    (hfit : FitTogether (t.tallies cls ++ ts)) :
    FitTogether (((t.find? pid).getD (.fresh pid)).counters.get cls :: ts) := by
  obtain ⟨rest, hbefore, -⟩ := h.exists_sameSum_alter cls pid id
  have hsplit := (hbefore.append_right ts).fitTogether_iff.1 hfit
  have hfirst : FitTogether
      ((((t.find? pid).getD (.fresh pid)).counters.get cls :: ts) ++ rest) :=
    (fitTogether_perm (List.perm_append_comm.cons _)).1 hsplit
  exact hfirst.left

end ProcessTable

end AccessPolicy
