import AccessPolicy.Proofs.Calls

/-!
# AccessPolicy.Proofs.Runs

What the acts of a session do to its arbiters and tables.

* `keeps_after` — throughout a run, an arbiter keeps tree, settings, sink and table;
* `perform_arbitrate` — a request is made at a depth of levels, or its guard is not held;
* `arbitrate_of_isSole` — a request at the only level is decided, and what it allows is
  counted in the table of the arbiter;
* `arbitrate_cases` — any other request is refused or passed through, and leaves all
  tables alone.
-/

namespace AccessPolicy

/-- Whether an act is a request to an arbiter. -/
def Act.isRequest : Act → Bool
  | .arbitrate _ _ _ => true
  | _ => false

namespace Session

/-! ## States of a run -/

/-- The state of a session after some acts. -/
def after (s : Session) (acts : List Act) : Session :=
  acts.foldl (fun s act => (s.perform act).session) s

@[simp] theorem after_cons (s : Session) (act : Act) (acts : List Act) :
    s.after (act :: acts) = (s.perform act).session.after acts := rfl

/-! ## What every act keeps -/

/-- An arbiter in its seat: tree, settings and sink are those of `a`, and it writes to
table `k`. -/
def Seats (s : Session) (i : Nat) (a : Arbiter) (k : Nat) : Prop :=
  ∃ b, s.seats[i]? = some ⟨b, k⟩ ∧ b.SameJob a

/-- A later state of a session: every arbiter is still in its seat, and no table was
added or removed. -/
structure Keeps (s s' : Session) : Prop where
  seats : ∀ i a k, s.Seats i a k → s'.Seats i a k
  tables : s'.tables.length = s.tables.length

theorem Keeps.refl (s : Session) : s.Keeps s := ⟨fun _ _ _ h => h, rfl⟩

theorem Keeps.trans {s s' s'' : Session} (h : s.Keeps s') (h' : s'.Keeps s'') : s.Keeps s'' :=
  ⟨fun i a k hseat => h'.seats i a k (h.seats i a k hseat), h'.tables.trans h.tables⟩

variable {s : Session}

/-- Another state of an arbiter in its seat leaves every arbiter in its seat. -/
theorem keeps_set {seat : Nat} {x : Seat} {b : Arbiter} {tables : List ProcessTable}
    (hseat : s.seats[seat]? = some x) (hb : b.SameJob x.arbiter)
    (htables : tables.length = s.tables.length) :
    s.Keeps { s with seats := s.seats.set seat ⟨b, x.table⟩, tables } := by
  refine ⟨?_, htables⟩
  rintro i a k ⟨c, hc, hjob⟩
  by_cases hi : seat = i
  · subst hi
    obtain rfl := Option.some.inj (hseat.symm.trans hc)
    have hlt := (List.getElem?_eq_some_iff.1 hc).1
    exact ⟨b, by simp [hlt], hb.trans hjob⟩
  · exact ⟨c, by simp [hi, hc], hjob⟩

theorem keeps_arbitrateAt (s : Session) (seat depth : Nat) (request : Request) :
    s.Keeps (s.arbitrateAt seat depth request).session := by
  unfold arbitrateAt
  split
  · exact .refl s
  · rename_i hseat
    split
    · exact .refl s
    · exact keeps_set hseat (Arbiter.sameJob_arbitrateAt ..) List.length_set

theorem keeps_onTable (s : Session) (table : Nat)
    (f : ProcessTable → Answer × ProcessTable × List Event) :
    s.Keeps (s.onTable table f).session := by
  unfold onTable
  split
  · exact .refl s
  · exact ⟨fun _ _ _ h => h, List.length_set⟩

/-- Every act leaves the arbiters in their seats and the tables in their places. -/
theorem keeps_perform (s : Session) (act : Act) : s.Keeps (s.perform act).session := by
  cases act with
  | arbitrate seat guard request =>
      cases guard with
      | none => exact keeps_arbitrateAt ..
      | some guard =>
          simp only [perform]
          split
          · exact keeps_arbitrateAt ..
          · exact .refl s
  | tearDown seat =>
      simp only [perform]
      split
      · exact .refl s
      · rename_i hseat
        exact keeps_set hseat (Arbiter.sameJob_tearDown _) rfl
  | enter => exact ⟨fun _ _ _ h => h, rfl⟩
  | leave guard =>
      simp only [perform]
      split
      · exact ⟨fun _ _ _ h => h, rfl⟩
      · exact .refl s
  | register table pid parent => exact keeps_onTable ..
  | record table pid cls bytes => exact keeps_onTable ..
  | retire table root => exact keeps_onTable ..

/-- So does a run. -/
theorem keeps_after (s : Session) (acts : List Act) : s.Keeps (s.after acts) := by
  induction acts generalizing s with
  | nil => exact .refl s
  | cons act acts ih => exact (keeps_perform s act).trans (ih _)

/-! ## Requests -/

/-- Whether the level of a request would be the only one: a level of its own where none
is held, or the one level that is held. -/
def IsSole (s : Session) : Option Nat → Prop
  | none => s.guards.depth = 0
  | some guard => (s.guards.find? guard).isSome = true ∧ s.guards.depth = 1

instance (s : Session) : (guard : Option Nat) → Decidable (s.IsSole guard)
  | none => inferInstanceAs (Decidable (s.guards.depth = 0))
  | some guard =>
      inferInstanceAs (Decidable ((s.guards.find? guard).isSome = true ∧ s.guards.depth = 1))

variable {guard : Option Nat} {a : Arbiter} {k : Nat}

/-- A request is made at some depth, which is 1 iff its level is the only one; or its
guard is not held, and it is refused. -/
theorem perform_arbitrate (s : Session) (i : Nat) (guard : Option Nat) (request : Request) :
    (¬ s.IsSole guard ∧ s.perform (.arbitrate i guard request) = s.refuse) ∨
      ∃ depth, (depth = 1 ↔ s.IsSole guard) ∧
        s.perform (.arbitrate i guard request) = s.arbitrateAt i depth request := by
  cases guard with
  | none => exact .inr ⟨s.guards.depth + 1, Nat.succ_inj, rfl⟩
  | some guard =>
      cases hheld : s.guards.find? guard with
      | none =>
          refine .inl ⟨fun hsole => ?_, by simp only [perform, hheld]⟩
          rw [IsSole, hheld] at hsole
          cases hsole.1
      | some g =>
          refine .inr ⟨s.guards.depth, ?_, by simp only [perform, hheld, Guards.begun]⟩
          rw [IsSole, hheld]
          exact (and_iff_right rfl).symm

theorem perform_of_isSole (h : s.IsSole guard) (seat : Nat) (request : Request) :
    s.perform (.arbitrate seat guard request) = s.arbitrateAt seat 1 request := by
  rcases perform_arbitrate s seat guard request with ⟨hsole, -⟩ | ⟨depth, hdepth, hperform⟩
  · exact absurd h hsole
  · rw [hperform, hdepth.2 h]

/-- At the only level a request is decided, and counted if it is allowed. -/
theorem arbitrate_of_isSole {t : ProcessTable} {seat : Nat} (h : s.IsSole guard)
    (hseat : s.seats[seat]? = some ⟨a, k⟩) (htable : s.tables[k]? = some t) (request : Request) :
    (s.perform (.arbitrate seat guard request)).answer =
        .decision (a.judge request).1.decision ∧
      (s.perform (.arbitrate seat guard request)).session.tables =
        s.tables.set k (Arbiter.account (a.judge request).1.decision request t) := by
  simp only [perform_of_isSole h, arbitrateAt, hseat, htable, Arbiter.decision_arbitrateAt_one,
    Arbiter.table_arbitrateAt_one, and_self]

/-- At another depth a request is refused or passed through, and not counted. -/
theorem arbitrateAt_of_ne_one {depth : Nat} (h : depth ≠ 1) (s : Session) (seat : Nat)
    (request : Request) :
    (s.arbitrateAt seat depth request).session.tables = s.tables ∧
      ((s.arbitrateAt seat depth request).answer = .refused ∨
        (s.arbitrateAt seat depth request).answer = .decision .passThrough) := by
  unfold arbitrateAt
  split
  · exact ⟨rfl, .inl rfl⟩
  · split
    · exact ⟨rfl, .inl rfl⟩
    · rename_i htable
      obtain ⟨hlt, rfl⟩ := List.getElem?_eq_some_iff.1 htable
      rw [Arbiter.arbitrateAt_of_ne_one h]
      exact ⟨List.set_getElem_self hlt, .inr rfl⟩

/-- So is a request that is part of another call. -/
theorem arbitrate_of_not_isSole (h : ¬ s.IsSole guard) (seat : Nat) (request : Request) :
    (s.perform (.arbitrate seat guard request)).session.tables = s.tables ∧
      ((s.perform (.arbitrate seat guard request)).answer = .refused ∨
        (s.perform (.arbitrate seat guard request)).answer = .decision .passThrough) := by
  rcases perform_arbitrate s seat guard request with ⟨-, hperform⟩ | ⟨depth, hdepth, hperform⟩
  · rw [hperform]
    exact ⟨rfl, .inl rfl⟩
  · rw [hperform]
    exact arbitrateAt_of_ne_one (mt hdepth.1 h) s seat request

/-- A request is decided by an arbiter and counted in its table, or it is refused or
passed through and changes no table. -/
theorem arbitrate_cases (s : Session) (seat : Nat) (guard : Option Nat) (request : Request) :
    (∃ a k t, s.IsSole guard ∧ s.seats[seat]? = some ⟨a, k⟩ ∧ s.tables[k]? = some t ∧
      (s.perform (.arbitrate seat guard request)).answer =
        .decision (a.judge request).1.decision ∧
      (s.perform (.arbitrate seat guard request)).session.tables =
        s.tables.set k (Arbiter.account (a.judge request).1.decision request t)) ∨
    ((s.perform (.arbitrate seat guard request)).session.tables = s.tables ∧
      ((s.perform (.arbitrate seat guard request)).answer = .refused ∨
        ((s.perform (.arbitrate seat guard request)).answer = .decision .passThrough ∧
          ¬ s.IsSole guard))) := by
  by_cases hsole : s.IsSole guard
  · cases hseat : s.seats[seat]? with
    | none =>
        refine .inr ?_
        rw [perform_of_isSole hsole, arbitrateAt, hseat]
        exact ⟨rfl, .inl rfl⟩
    | some x =>
        obtain ⟨a, k⟩ := x
        cases htable : s.tables[k]? with
        | none =>
            refine .inr ?_
            rw [perform_of_isSole hsole, arbitrateAt, hseat]
            simp only [htable]
            exact ⟨rfl, .inl rfl⟩
        | some t =>
            obtain ⟨hanswer, htables⟩ := arbitrate_of_isSole hsole hseat htable request
            exact .inl ⟨a, k, t, hsole, rfl, htable, hanswer, htables⟩
  · obtain ⟨htables, hanswer⟩ := arbitrate_of_not_isSole hsole seat request
    rcases hanswer with hrefused | hpassed
    · exact .inr ⟨htables, .inl hrefused⟩
    · exact .inr ⟨htables, .inr ⟨hpassed, hsole⟩⟩

end Session

end AccessPolicy
