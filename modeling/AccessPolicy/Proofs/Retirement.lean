import AccessPolicy.Proofs.Bookkeeping
import AccessPolicy.Proofs.Sums

/-!
# AccessPolicy.Proofs.Retirement

What becomes of the counts of families that are retired.

While the exact sums fit into 64 bits, counts are only moved:

1. an operation adds its pair to the counts in the table;
2. to retire a family is to return what its members have counted and to leave the
   other processes as they are;
3. so what was ever returned and what is still in the table are together what was
   counted.

Families may be nested or share a cycle of parents.  What two of them have between them
is the same whichever is retired first.

* `mem_family_retire` — what is left of one family when another is retired;
* `Distinct.perm_tallies_retire` — rule 2;
* `sameSum_returned` — rule 3, for any observations;
* `retirement_conserves` — all of this, for the tables of a session.
-/

namespace AccessPolicy

namespace ProcessTable

open Tally

variable {t : ProcessTable} {cls : IoClass}

/-! ## Retiring one family -/

/-- The members of a family are those processes that are in it, in some order. -/
theorem Distinct.perm_family (h : t.Distinct) (root : UInt32) :
    ((t.family root).filterMap t.find?).Perm
      (t.processes.filter fun p => (t.family root).contains p.pid) := by
  have hmembers : ((t.family root).filterMap t.find?).Nodup := by
    refine (h.nodup_family root).filterMap fun a b p ha hb => ?_
    exact (pid_of_find? ha).symm.trans (pid_of_find? hb)
  have hprocesses : t.processes.Nodup := List.Nodup.of_map _ h
  refine (List.perm_ext_iff_of_nodup hmembers (hprocesses.filter _)).2 fun p => ?_
  simp only [List.mem_filterMap, List.mem_filter, List.contains_iff_mem, h.find?_eq_some_iff]
  constructor
  · rintro ⟨_, hmem, hp, rfl⟩
    exact ⟨hp, hmem⟩
  · rintro ⟨hp, hmem⟩
    exact ⟨p.pid, hmem, hp, rfl⟩

theorem familyTallies_eq (t : ProcessTable) (root : UInt32) (cls : IoClass) :
    t.familyTallies root cls =
      ((t.family root).filterMap t.find?).map (·.counters.get cls) := by
  have hcounters (pid : UInt32) : (t.counters? pid).map (·.get cls) =
      (t.find? pid).map (·.counters.get cls) := Option.map_map _ _ _
  simp only [familyTallies, familyCounters, List.map_filterMap, hcounters]

/-- The counts of a family leave the table, and the others stay. -/
theorem Distinct.perm_tallies_retire (h : t.Distinct) (root : UInt32) (cls : IoClass) :
    (t.tallies cls).Perm (t.familyTallies root cls ++ (t.retire root).tallies cls) := by
  have hmembers := (h.perm_family root).map (·.counters.get cls)
  rw [← familyTallies_eq] at hmembers
  refine .trans ?_ (hmembers.symm.append_right _)
  rw [tallies, tallies, ProcessTable.retire, ← List.map_append]
  exact ((List.filter_append_perm _ _).symm).map _

/-- A family that fits returns the sums of its members. -/
theorem sameSum_aggregate {root : UInt32} (hfit : FitTogether (t.familyTallies root cls)) :
    SameSum [(t.aggregate root).get cls] (t.familyTallies root cls) := by
  rw [aggregate, Counters.get_sum]
  exact sameSum_foldl hfit

/-- A family that fits has one total, in whatever order its members are visited. -/
theorem get_sumOver_of_fitTogether {root : UInt32} (hfit : FitTogether (t.familyTallies root cls))
    {members : List UInt32} (hmembers : members.Perm (t.family root)) :
    (t.sumOver members).get cls = (t.aggregate root).get cls := by
  have hperm : ((members.filterMap t.counters?).map (·.get cls)).Perm
      (t.familyTallies root cls) := (hmembers.filterMap t.counters?).map _
  have hvisited := sameSum_foldl ((fitTogether_perm hperm).2 hfit)
  rw [← Counters.get_sum] at hvisited
  exact (hvisited.trans ((SameSum.of_perm hperm).trans (sameSum_aggregate hfit).symm)).eq

/-! ## Retiring two families -/

theorem processes_retire (t : ProcessTable) (root : UInt32) :
    (t.retire root).processes = t.processes.filter fun p => p.pid ∉ t.family root :=
  List.filter_congr fun p _ => by simp

theorem parentIn_retire {root parent child : UInt32} :
    ParentIn (t.retire root).processes parent child ↔
      ParentIn t.processes parent child ∧ child ∉ t.family root := by
  simp only [ParentIn, processes_retire, List.mem_filter, decide_eq_true_eq]
  constructor
  · rintro ⟨p, ⟨hp, hout⟩, rfl, hparent⟩
    exact ⟨⟨p, hp, rfl, hparent⟩, hout⟩
  · rintro ⟨⟨p, hp, rfl, hparent⟩, hout⟩
    exact ⟨p, ⟨hp, hout⟩, rfl, hparent⟩

/-- What descends from a member of a family is a member. -/
theorem mem_family_trans {root x y : UInt32} (hx : x ∈ t.family root)
    (hy : Relation.ReflTransGen (ParentIn t.processes) x y) : y ∈ t.family root := by
  obtain ⟨hknown, hreach⟩ := mem_family_iff.1 hx
  exact mem_family_iff.2 ⟨hknown, hreach.trans hy⟩

/-- When a family is retired, what is left of another one are its other members: no
descendant is cut off, for what leads to it would have to be retired with it. -/
theorem mem_family_retire {a b x : UInt32} :
    x ∈ (t.retire a).family b ↔ x ∈ t.family b ∧ x ∉ t.family a := by
  rw [mem_family_iff, mem_family_iff, find?_retire]
  constructor
  · rintro ⟨hknown, hreach⟩
    split at hknown
    · cases hknown
    · rename_i hb
      have hwhole := Relation.ReflTransGen.mono (fun _ _ hlink => (parentIn_retire.1 hlink).1)
        _ _ hreach
      refine ⟨⟨hknown, hwhole⟩, ?_⟩
      cases hreach with
      | refl => exact hb
      | tail _ hlink => exact (parentIn_retire.1 hlink).2
  · rintro ⟨⟨hknown, hreach⟩, hx⟩
    have hb : b ∉ t.family a := fun hb => hx (mem_family_trans hb hreach)
    refine ⟨by rwa [if_neg hb], ?_⟩
    induction hreach with
    | refl => exact .refl
    | tail _ hlink ih =>
        have hparent := fun hmem => hx (mem_family_trans hmem (.single hlink))
        exact (ih hparent).tail (parentIn_retire.2 ⟨hlink, hx⟩)

/-- Which of two families is retired first does not matter for the table. -/
theorem retire_comm (t : ProcessTable) (a b : UInt32) :
    (t.retire a).retire b = (t.retire b).retire a := by
  have hboth (a b : UInt32) : ((t.retire a).retire b).processes =
      t.processes.filter fun p => p.pid ∉ t.family a ∧ p.pid ∉ t.family b := by
    rw [processes_retire, processes_retire, List.filter_filter]
    refine List.filter_congr fun p _ => ?_
    rw [← Bool.decide_and, decide_eq_decide, mem_family_retire]
    tauto
  rw [ProcessTable.mk.injEq, hboth, hboth]
  exact List.filter_congr fun p _ => decide_eq_decide.2 and_comm

/-- Nor does it matter for what two families have counted between them. -/
theorem Distinct.perm_familyTallies (h : t.Distinct) (a b : UInt32) (cls : IoClass) :
    (t.familyTallies a cls ++ (t.retire a).familyTallies b cls).Perm
      (t.familyTallies b cls ++ (t.retire b).familyTallies a cls) := by
  have hall (a b : UInt32) : (t.tallies cls).Perm (t.familyTallies a cls ++
      (t.retire a).familyTallies b cls ++ ((t.retire a).retire b).tallies cls) := by
    rw [List.append_assoc]
    exact (h.perm_tallies_retire a cls).trans
      (((h.retire a).perm_tallies_retire b cls).append_left _)
  have hboth := (hall a b).symm.trans (hall b a)
  rw [retire_comm t b a] at hboth
  exact (List.perm_append_right_iff _).1 hboth

/-- Two families that fit together have one total, whichever is retired first. -/
theorem Distinct.add_aggregate_comm (h : t.Distinct) (a b : UInt32)
    (hfit : FitTogether (t.familyTallies a cls ++ (t.retire a).familyTallies b cls)) :
    (t.aggregate a).get cls + ((t.retire a).aggregate b).get cls =
      (t.aggregate b).get cls + ((t.retire b).aggregate a).get cls := by
  have hboth (a b : UInt32)
      (hfit : FitTogether (t.familyTallies a cls ++ (t.retire a).familyTallies b cls)) :
      SameSum [(t.aggregate a).get cls + ((t.retire a).aggregate b).get cls]
        (t.familyTallies a cls ++ (t.retire a).familyTallies b cls) := by
    have hsums := (sameSum_aggregate hfit.left).append (sameSum_aggregate hfit.right)
    exact (sameSum_add (hsums.fitTogether_iff.2 hfit)).trans hsums
  have hperm := h.perm_familyTallies a b cls
  exact ((hboth a b hfit).trans ((SameSum.of_perm hperm).trans
    (hboth b a ((fitTogether_perm hperm).1 hfit)).symm)).eq

end ProcessTable

/-! ## Retiring in the course of observations -/

namespace Observation

open Tally

/-- The notes among some observations. -/
def notes (os : List Observation) : List Note :=
  os.filterMap fun
    | .noted _ note => some note
    | .forgotten _ => none

/-- The counts that are returned, in order, for the families that are forgotten. -/
def returned (t : ProcessTable) : List Observation → List Counters
  | [] => []
  | .noted pid note :: os => returned (t.alter pid note.apply) os
  | .forgotten root :: os => t.aggregate root :: returned (t.retire root) os

theorem returned_append (t : ProcessTable) (os os' : List Observation) :
    returned t (os ++ os') = returned t os ++ returned (os.foldl apply t) os' := by
  induction os generalizing t with
  | nil => rfl
  | cons o os ih =>
      cases o with
      | noted pid note => exact ih _
      | forgotten root => exact congrArg (t.aggregate root :: ·) (ih _)

variable {t : ProcessTable} {cls : IoClass}

theorem tallies_notes_noted (pid : UInt32) (note : Note) (os : List Observation) :
    Note.tallies cls (notes (.noted pid note :: os)) =
      Note.tallies cls [note] ++ Note.tallies cls (notes os) := by
  have hnotes : notes (.noted pid note :: os) = [note] ++ notes os := rfl
  simp only [hnotes, Note.tallies, List.filterMap_append, List.filter_append, List.map_append]

/-- What was ever returned and what is still in the table are together what was there at
first and what was noted since. -/
theorem sameSum_returned (h : t.Distinct) (os : List Observation)
    (hfit : FitTogether (t.tallies cls ++ Note.tallies cls (notes os))) :
    SameSum ((returned t os).map (·.get cls) ++ (os.foldl apply t).tallies cls)
      (t.tallies cls ++ Note.tallies cls (notes os)) := by
  induction os generalizing t with
  | nil => exact .of_perm (by simp [returned, notes, Note.tallies])
  | cons o os ih =>
      cases o with
      | noted pid note =>
          rw [tallies_notes_noted, ← List.append_assoc] at hfit ⊢
          have hstep := h.sameSum_noted pid (h.fitTogether_noted pid hfit.left)
          have hsums := hstep.append_right (Note.tallies cls (notes os))
          exact (ih (h.alter note.pid_apply) (hsums.fitTogether_iff.2 hfit)).trans hsums
      | forgotten root =>
          have hperm := (h.perm_tallies_retire root cls).append_right (Note.tallies cls (notes os))
          rw [List.append_assoc] at hperm
          have hfit := (fitTogether_perm hperm).1 hfit
          have hrest := (ih (h.retire root) hfit.right).append_left [(t.aggregate root).get cls]
          have hfamily := (ProcessTable.sameSum_aggregate hfit.left).append_right
            ((t.retire root).tallies cls ++ Note.tallies cls (notes os))
          exact (hrest.trans hfamily).trans (.of_perm hperm.symm)

end Observation

/-! ## Runs -/

namespace Session

open Tally

variable {s : Session} {table : Nat} {t : ProcessTable}

/-- The operations of a class that a run counts in a table: pairs of one operation and the
bytes it moved. -/
def recorded (s : Session) (table : Nat) (acts : List Act) (cls : IoClass) : List Tally :=
  Note.tallies cls (Observation.notes (s.observations table acts))

/-- The counts that an act returns for a family of a table that it retires. -/
def retired? (s : Session) (table : Nat) : Act → Option Counters
  | .retire k root =>
      if k = table then
        match (s.perform (.retire k root)).answer with
        | .counters c => some c
        | _ => none
      else none
  | _ => none

/-- All counts that a run returns for families of a table. -/
def retired (s : Session) (table : Nat) : List Act → List Counters
  | [] => []
  | act :: acts => (s.retired? table act).toList ++ (s.perform act).session.retired table acts

/-- To retire a family is to return its total and to forget its members. -/
theorem perform_retire (ht : s.tables[table]? = some t) (root : UInt32) :
    (s.perform (.retire table root)).answer = .counters (t.aggregate root) ∧
      (s.perform (.retire table root)).session.tables[table]? = some (t.retire root) := by
  refine ⟨by simp only [perform, onTable, ht], ?_⟩
  rw [getElem?_tables_perform ht, observation?, if_pos rfl]
  rfl

/-- What an act returns for a family of a table is told by its observation. -/
theorem retired?_eq_returned (ht : s.tables[table]? = some t) (act : Act) :
    (s.retired? table act).toList = Observation.returned t (s.observation? table act).toList := by
  cases act with
  | retire k root =>
      by_cases hk : k = table
      · subst hk
        simp only [retired?, observation?, if_true, (perform_retire ht root).1]
        rfl
      · simp only [retired?, observation?, if_neg hk]
        rfl
  | register k pid parent =>
      simp only [retired?, observation?]
      split <;> rfl
  | record k pid cls bytes =>
      simp only [retired?, observation?]
      split <;> rfl
  | arbitrate seat guard request =>
      simp only [retired?, observation?]
      split <;> rfl
  | tearDown seat => rfl
  | enter => rfl
  | leave guard => rfl

/-- So is what a run returns. -/
theorem retired_eq_returned (ht : s.tables[table]? = some t) (acts : List Act) :
    s.retired table acts = Observation.returned t (s.observations table acts) := by
  induction acts generalizing s t with
  | nil => rfl
  | cons act acts ih =>
      rw [retired, observations, Observation.returned_append, retired?_eq_returned ht,
        ih (getElem?_tables_perform ht act)]
      cases s.observation? table act <;> rfl

/-- **Retirement**: take a table that is empty when a run begins.

1. To retire a family is to return its total, the same in whatever order its members are
   visited, and to forget its members and nothing else.
2. What was ever returned and what the processes still in the table have counted add up to
   what was recorded.
3. Which of two families is retired first matters neither for the table nor for what is
   returned for both.

A class is concerned by this where the exact sums fit into 64 bits. -/
theorem retirement_conserves {s : Session} {table : Nat} (h : s.tables[table]? = some ∅)
    (acts : List Act) :
    ∃ t, (s.after acts).tables[table]? = some t ∧
      (∀ root,
        ((s.after acts).perform (.retire table root)).answer = .counters (t.aggregate root) ∧
        ((s.after acts).perform (.retire table root)).session.tables[table]? =
          some (t.retire root) ∧
        (∀ cls, FitTogether (t.familyTallies root cls) →
          ∀ members, members.Perm (t.family root) →
            (t.sumOver members).get cls = (t.aggregate root).get cls) ∧
        ∀ pid, (t.retire root).find? pid = if pid ∈ t.family root then none else t.find? pid) ∧
      (∀ cls, FitTogether (s.recorded table acts cls) →
        SameSum ((s.retired table acts).map (·.get cls) ++ t.tallies cls)
          (s.recorded table acts cls)) ∧
      ∀ a b, (t.retire a).retire b = (t.retire b).retire a ∧
        ∀ cls, FitTogether (t.familyTallies a cls ++ (t.retire a).familyTallies b cls) →
          (t.aggregate a).get cls + ((t.retire a).aggregate b).get cls =
            (t.aggregate b).get cls + ((t.retire b).aggregate a).get cls := by
  have hafter := getElem?_tables_after h acts
  have hdistinct := (Ledger.matches_empty.observeAll (s.observations table acts)).distinct
  refine ⟨_, hafter, fun root => ?_, fun cls hfit => ?_, fun a b => ?_⟩
  · obtain ⟨hanswer, hretired⟩ := perform_retire hafter root
    exact ⟨hanswer, hretired, fun cls hfit members hmembers =>
      ProcessTable.get_sumOver_of_fitTogether hfit hmembers, ProcessTable.find?_retire _ root⟩
  · rw [retired_eq_returned h]
    exact Observation.sameSum_returned ProcessTable.distinct_empty _ hfit
  · exact ⟨ProcessTable.retire_comm _ a b, fun cls hfit =>
      hdistinct.add_aggregate_comm a b hfit⟩

/-- Processes 1 and 2 are each other's parent and 3 descends from both; 3 is retired, and
seen again without a parent. -/
def cycleActs : List Act :=
  [.register 0 1 (some 2), .record 0 1 .read 5, .register 0 2 (some 1), .record 0 2 .read 7,
    .register 0 3 (some 2), .record 0 3 .read 11, .retire 0 3, .record 0 3 .read 13]

/-- The table that these acts leave. -/
def cycleTable : ProcessTable :=
  ⟨[⟨1, some 2, ⟨⟨1, 5⟩, .zero, .zero⟩⟩, ⟨2, some 1, ⟨⟨1, 7⟩, .zero, .zero⟩⟩,
    ⟨3, none, ⟨⟨1, 13⟩, .zero, .zero⟩⟩]⟩

theorem after_cycleActs : (Session.empty.after cycleActs).tables[0]? = some cycleTable := by
  decide +kernel

/-- Of the sample, the count of 3 that was returned and those in the table are what was
read, and 1 and 2 retire together from either end. -/
theorem retirement_conserves_sample :
    Session.empty.tables[0]? = some ∅ ∧
      Session.empty.recorded 0 cycleActs .read = [⟨1, 5⟩, ⟨1, 7⟩, ⟨1, 11⟩, ⟨1, 13⟩] ∧
      FitTogether (Session.empty.recorded 0 cycleActs .read) ∧
      SameSum ((Session.empty.retired 0 cycleActs).map (·.get .read) ++ cycleTable.tallies .read)
        (Session.empty.recorded 0 cycleActs .read) ∧
      [2, 1].Perm (cycleTable.family 1) ∧
      (cycleTable.sumOver [2, 1]).get .read = (cycleTable.aggregate 1).get .read ∧
      (cycleTable.retire 1).find? 2 = none ∧
      (cycleTable.retire 1).retire 2 = (cycleTable.retire 2).retire 1 ∧
      (cycleTable.aggregate 1).get .read + ((cycleTable.retire 1).aggregate 2).get .read =
        (cycleTable.aggregate 2).get .read + ((cycleTable.retire 2).aggregate 1).get .read := by
  have hrecorded : Session.empty.recorded 0 cycleActs .read =
      [⟨1, 5⟩, ⟨1, 7⟩, ⟨1, 11⟩, ⟨1, 13⟩] := rfl
  have hfit : FitTogether (Session.empty.recorded 0 cycleActs .read) := by
    rw [hrecorded]
    decide
  have hfamily : cycleTable.family 1 = [1, 2] := by cbv
  have hperm : [2, 1].Perm (cycleTable.family 1) := by
    rw [hfamily]
    decide
  have hfirst : cycleTable.familyTallies 1 .read = [⟨1, 5⟩, ⟨1, 7⟩] := by
    decide +kernel
  have hsecond : (cycleTable.retire 1).familyTallies 2 .read = [] := by
    decide +kernel
  have hempty : Session.empty.tables[0]? = some ∅ := rfl
  obtain ⟨t, ht, hretire, hsums, hcommutes⟩ := retirement_conserves hempty cycleActs
  obtain rfl := Option.some.inj (after_cycleActs.symm.trans ht)
  obtain ⟨-, -, hvisited, hleft⟩ := hretire 1
  obtain ⟨htables, htotals⟩ := hcommutes 1 2
  refine ⟨hempty, hrecorded, hfit, hsums .read hfit, hperm, hvisited .read ?_ _ hperm, ?_, htables,
    htotals .read ?_⟩
  · rw [hfirst]
    decide
  · rw [hleft 2, if_pos (hperm.mem_iff.1 (by decide))]
  · rw [hfirst, hsecond]
    decide

end Session

end AccessPolicy
