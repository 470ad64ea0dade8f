import AccessPolicy.Proofs.Ledger
import AccessPolicy.Proofs.Runs

/-!
# AccessPolicy.Proofs.Bookkeeping

The process tables of a session say what was observed in its run, and nothing else.

An act is an *observation* for a table in three cases:

1. a process is registered, or an operation of it is recorded;
2. a family is retired;
3. a request to an arbiter that writes to the table is allowed at the only level.

* `getElem?_tables_perform` — an act changes a table by its observation;
* `tables_of_not_counted` — an access that is denied or passed through changes no table;
* `accounting_faithful` — after any run, a table that was empty at first says what the
  ledger of the observations tells.
-/

namespace AccessPolicy

/-- Whether an answer lets an access proceed. -/
def Answer.allows : Answer → Bool
  | .decision d => d.allowed
  | _ => false

namespace Session

/-! ## Observations -/

/-- The observation that an act is for a table. -/
def observation? (s : Session) (table : Nat) : Act → Option Observation
  | .register k pid parent => if k = table then some (.noted pid ⟨parent, none⟩) else none
  | .record k pid cls bytes =>
      if k = table then some (.noted pid ⟨none, some (cls, bytes)⟩) else none
  | .retire k root => if k = table then some (.forgotten root) else none
  | .arbitrate seat guard request =>
      if s.IsSole guard ∧ (s.seats[seat]?).map (·.table) = some table ∧
          (s.perform (.arbitrate seat guard request)).answer.allows = true then
        some (.noted request.process
          ⟨request.parent, some (request.operation.ioClass, request.bytes)⟩)
      else none
  | _ => none

/-- The observations that a run makes for a table, in order. -/
def observations (s : Session) (table : Nat) : List Act → List Observation
  | [] => []
  | act :: acts =>
      (s.observation? table act).toList ++ (s.perform act).session.observations table acts

variable {s : Session} {table : Nat} {t : ProcessTable}

/-! ## What an act does to a table -/

theorem getElem?_tables_onTable (ht : s.tables[table]? = some t) (k : Nat)
    (f : ProcessTable → Answer × ProcessTable × List Event) :
    (s.onTable k f).session.tables[table]? = some (if k = table then (f t).2.1 else t) := by
  unfold onTable
  by_cases hk : k = table
  · subst hk
    obtain ⟨hlt, -⟩ := List.getElem?_eq_some_iff.1 ht
    simp only [ht, if_true]
    exact List.getElem?_set_self hlt
  · rw [if_neg hk]
    split
    · exact ht
    · exact (List.getElem?_set_ne hk).trans ht

/-- A request changes a table iff it is allowed at the only level by an arbiter that
writes to the table. -/
theorem getElem?_tables_arbitrate (ht : s.tables[table]? = some t) (seat : Nat)
    (guard : Option Nat) (request : Request) :
    (s.perform (.arbitrate seat guard request)).session.tables[table]? =
      some ((s.observation? table (.arbitrate seat guard request)).elim t (·.apply t)) := by
  rcases arbitrate_cases s seat guard request with
    ⟨a, k, t', hsole, hseat, htable, hanswer, htables⟩ | ⟨htables, hanswer⟩
  · rw [htables, observation?, hanswer]
    by_cases hk : k = table
    · subst hk
      obtain rfl := Option.some.inj (htable.symm.trans ht)
      obtain ⟨hlt, -⟩ := List.getElem?_eq_some_iff.1 ht
      rw [List.getElem?_set_self hlt, Arbiter.account]
      cases hallowed : (a.judge request).1.decision.allowed with
      | true =>
          simp only [hsole, hseat, Answer.allows, hallowed, Option.map_some, and_self, if_true]
          rfl
      | false => simp [Answer.allows, hallowed]
    · rw [List.getElem?_set_ne hk, ht]
      simp [hseat, hk]
  · have hnone : s.observation? table (.arbitrate seat guard request) = none := by
      rcases hanswer with hrefused | ⟨-, hsole⟩
      · simp [observation?, hrefused, Answer.allows]
      · simp [observation?, hsole]
    rw [htables, hnone, Option.elim_none, ht]

/-- An act changes a table by its observation. -/
theorem getElem?_tables_perform (ht : s.tables[table]? = some t) (act : Act) :
    (s.perform act).session.tables[table]? =
      some ((s.observation? table act).elim t (·.apply t)) := by
  cases act with
  | arbitrate seat guard request => exact getElem?_tables_arbitrate ht ..
  | tearDown seat =>
      simp only [perform]
      split
      · exact ht
      · exact ht
  | enter => exact ht
  | leave guard =>
      simp only [perform]
      split
      · exact ht
      · exact ht
  | register k pid parent =>
      rw [perform, getElem?_tables_onTable ht, observation?]
      split <;> rfl
  | record k pid cls bytes =>
      rw [perform, getElem?_tables_onTable ht, observation?]
      split <;> rfl
  | retire k root =>
      rw [perform, getElem?_tables_onTable ht, observation?]
      split <;> rfl

/-- After a run, a table has changed by the observations of the run, one by one. -/
theorem getElem?_tables_after (ht : s.tables[table]? = some t) (acts : List Act) :
    (s.after acts).tables[table]? =
      some ((s.observations table acts).foldl Observation.apply t) := by
  induction acts generalizing s t with
  | nil => exact ht
  | cons act acts ih =>
      rw [after_cons, ih (getElem?_tables_perform ht act), observations, List.foldl_append]
      cases s.observation? table act <;> rfl

end Session

/-- A table and a ledger that say the same still do after any observations. -/
theorem Ledger.Matches.observeAll {ledger : Ledger} {t : ProcessTable} (h : ledger.Matches t)
    (observations : List Observation) :
    (observations.foldl Ledger.observe ledger).Matches
      (observations.foldl Observation.apply t) := by
  induction observations generalizing ledger t with
  | nil => exact h
  | cons o os ih => exact ih (h.observe o)

/-! ## Accesses that are not counted -/

/-- What is a fault or comes too late is denied, and no verdict passes through. -/
theorem Arbiter.allowed_judge_of_reason {a : Arbiter} {request : Request}
    (h : (a.judge request).1.decision.reason ∈ [.suppressed, .internalFault, .tearingDown]) :
    (a.judge request).1.decision.allowed = false := by
  rcases judge_cases a request with hjudge | hjudge | ⟨found, -, hjudge⟩
  · rw [hjudge]
    rfl
  · rw [hjudge]
    rfl
  · rw [hjudge] at h
    exact absurd h (Verdict.reason_ofResolution _ _ _)

namespace Session

variable {s : Session}

/-- An access that is denied or passed through changes no table. -/
theorem tables_of_not_counted {seat : Nat} {guard : Option Nat} {request : Request} {d : Decision}
    (h : (s.perform (.arbitrate seat guard request)).answer = .decision d)
    (hd : d.allowed = false ∨ d.reason ∈ [.suppressed, .internalFault, .tearingDown]) :
    (s.perform (.arbitrate seat guard request)).session.tables = s.tables := by
  rcases arbitrate_cases s seat guard request with
    ⟨a, k, t, -, -, htable, hanswer, htables⟩ | ⟨htables, -⟩
  · obtain rfl := Answer.decision.inj (hanswer.symm.trans h)
    have hdenied : (a.judge request).1.decision.allowed = false := by
      rcases hd with hallowed | hreason
      · exact hallowed
      · exact Arbiter.allowed_judge_of_reason hreason
    obtain ⟨hlt, rfl⟩ := List.getElem?_eq_some_iff.1 htable
    rw [htables, Arbiter.account, hdenied, if_neg (by decide)]
    exact List.set_getElem_self hlt
  · exact htables

/-- **Accounting**: a table that is empty when a run begins says at its end what the
ledger of the observations of the run tells, whatever arbiters write to it.  Of all
requests those that are denied, faulted, too late or passed through change no table. -/
theorem accounting_faithful {s : Session} {table : Nat} (h : s.tables[table]? = some ∅)
    (acts : List Act) :
    (∃ t, (s.after acts).tables[table]? = some t ∧
      ∀ pid, t.find? pid = (Ledger.ofObservations (s.observations table acts)).process? pid) ∧
    ∀ seat guard request d,
      ((s.after acts).perform (.arbitrate seat guard request)).answer = .decision d →
      d.allowed = false ∨ d.reason ∈ [.suppressed, .internalFault, .tearingDown] →
      ((s.after acts).perform (.arbitrate seat guard request)).session.tables =
        (s.after acts).tables := by
  constructor
  · exact ⟨_, getElem?_tables_after h acts,
      (Ledger.matches_empty.observeAll (s.observations table acts)).find?_eq⟩
  · intro seat guard request d hanswer hd
    exact tables_of_not_counted hanswer hd

/-- An arbiter that lets everything be read and nothing be written. -/
def readOnlyArbiter : Arbiter :=
  .create ⟨.sensitive, ⟨.maskAll, .allowRead, .scope⟩, .nil⟩ ⟨7, .strict, false⟩ .logging

/-- A session with that arbiter. -/
def readOnlySession : Session := Session.empty.addArbiter readOnlyArbiter true

/-- A process is retired with its parent and seen again; then a count starts afresh. -/
def sampleActs : List Act :=
  [.register 0 1 (some 1), .register 0 2 (some 1), .retire 0 1,
    .record 0 2 .write 18446744073709551615, .record 0 2 .write 1, .record 0 2 .write 5]

/-- The sample acts leave one process without a parent, and its last operation.  A
denied write adds nothing. -/
theorem accounting_faithful_sample :
    (∃ t, (readOnlySession.after sampleActs).tables[0]? = some t ∧ t.find? 1 = none ∧
      t.find? 2 = some ⟨2, none, ⟨.zero, ⟨1, 5⟩, .zero⟩⟩) ∧
    ((readOnlySession.after sampleActs).perform
      (.arbitrate 0 none ⟨"/a", .write, 2, some 1, 9, true⟩)).session.tables =
        (readOnlySession.after sampleActs).tables := by
  have hempty : readOnlySession.tables[0]? = some ∅ := rfl
  have hsole : (readOnlySession.after sampleActs).IsSole none := rfl
  obtain ⟨⟨t, ht, hfind⟩, hkept⟩ := accounting_faithful hempty sampleActs
  have hobserved : readOnlySession.observations 0 sampleActs =
      [.noted 1 ⟨some 1, none⟩, .noted 2 ⟨some 1, none⟩, .forgotten 1,
        .noted 2 ⟨none, some (.write, 18446744073709551615)⟩,
        .noted 2 ⟨none, some (.write, 1)⟩, .noted 2 ⟨none, some (.write, 5)⟩] := rfl
  let before : Ledger := .ofObservations [.noted 1 ⟨some 1, none⟩, .noted 2 ⟨some 1, none⟩]
  have hforgotten (pid : UInt32) (h : before.Descends 1 pid) : before.forget 1 pid = [] :=
    if_pos ⟨List.cons_ne_nil _ _, h⟩
  have hparent : before.forget 1 1 = [] := hforgotten 1 .refl
  have hchild : before.forget 1 2 = [] := hforgotten 2 (.single rfl)
  have hseat : (readOnlySession.after sampleActs).seats[0]? = some ⟨readOnlyArbiter, 0⟩ := rfl
  have hdenied := (arbitrate_of_isSole hsole hseat ht ⟨"/a", .write, 2, some 1, 9, true⟩).1
  refine ⟨⟨t, ht, ?_, ?_⟩, hkept 0 none _ _ hdenied (.inl rfl)⟩
  · rw [hfind, hobserved]
    exact if_pos (congrArg List.isEmpty hparent)
  · rw [hfind, hobserved]
    have hnotes : Ledger.ofObservations [.noted 1 ⟨some 1, none⟩, .noted 2 ⟨some 1, none⟩,
        .forgotten 1, .noted 2 ⟨none, some (.write, 18446744073709551615)⟩,
        .noted 2 ⟨none, some (.write, 1)⟩, .noted 2 ⟨none, some (.write, 5)⟩] 2 =
          before.forget 1 2 ++ [⟨none, some (.write, 18446744073709551615)⟩] ++
            [⟨none, some (.write, 1)⟩] ++ [⟨none, some (.write, 5)⟩] := rfl
    rw [Ledger.process?, hnotes, hchild]
    rfl

end Session

end AccessPolicy
