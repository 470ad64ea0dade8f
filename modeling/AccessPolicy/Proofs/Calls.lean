import AccessPolicy.Session

/-!
# AccessPolicy.Proofs.Calls

What one call of an arbiter leaves behind.

Whatever a call does, the tree, the settings and the sink of the arbiter stay.  A call
at the only level is decided by `judge`, and what it allows is counted; any other call
leaves the process table alone.

* `judge_cases` — the three ways to a verdict;
* `sameJob_arbitrateAt` — a call changes neither tree nor settings nor sink;
* `decision_arbitrateAt_one`, `table_arbitrateAt_one` — a call at the only level.
-/

namespace AccessPolicy

/-! ## Verdicts -/

/-- The verdict on a resolved path is no fault, comes in time and passes nothing through. -/
theorem Verdict.reason_ofResolution (settings : Settings) (request : Request)
    (found : Resolution) : (ofResolution settings request found).decision.reason ∉
      [.suppressed, .internalFault, .tearingDown] := by
  simp only [ofResolution]
  split
  · decide
  · split
    · decide
    · decide

/-- A verdict is forced by tearing down or by a fault, or the path is resolved. -/
theorem Arbiter.judge_cases (a : Arbiter) (request : Request) :
    (a.judge request).1 = .failClosed .tearingDown ∨
      (a.judge request).1 = .failClosed .internalFault ∨
      ∃ found, a.tree.resolve request.path = .ok found ∧
        (a.judge request).1 = .ofResolution a.settings request found := by
  unfold judge
  split
  · exact .inl rfl
  · cases a.tree.resolve request.path with
    | error e => exact .inr (.inl rfl)
    | ok found => exact .inr (.inr ⟨found, rfl, rfl⟩)

namespace Arbiter

/-- Two states of one arbiter: they have tree, settings and sink in common. -/
structure SameJob (a b : Arbiter) : Prop where
  tree : a.tree = b.tree
  settings : a.settings = b.settings
  sink : a.sink = b.sink

theorem SameJob.refl (a : Arbiter) : a.SameJob a := ⟨rfl, rfl, rfl⟩

theorem SameJob.trans {a b c : Arbiter} (h : a.SameJob b) (h' : b.SameJob c) : a.SameJob c :=
  ⟨h.tree.trans h'.tree, h.settings.trans h'.settings, h.sink.trans h'.sink⟩

/-! ## Calls that a sink makes -/

/-- An arbiter after `n` calls that were passed through. -/
def suppress (a : Arbiter) (n : Nat) : Arbiter :=
  { a with stats := { a.stats with suppressed := a.stats.suppressed + n } }

theorem suppress_countSuppressed (a : Arbiter) (n : Nat) :
    a.countSuppressed.suppress n = a.suppress (n + 1) := by
  simp only [suppress, countSuppressed, Nat.add_assoc, Nat.add_comm 1 n]

/-- The requests of a sink are passed through and counted, and nothing else happens. -/
theorem callEach_passThrough (a : Arbiter) (t : ProcessTable) (requests : List Request) :
    callEach (fun a t _ => passThrough a t) a t requests =
      ⟨List.replicate requests.length .passThrough, a.suppress requests.length, t, []⟩ := by
  induction requests generalizing a with
  | nil => rfl
  | cons q qs ih =>
      have hrest := ih a.countSuppressed
      rw [suppress_countSuppressed] at hrest
      have harbiter : (passThrough a t).arbiter = a.countSuppressed := rfl
      have htable : (passThrough a t).table = t := rfl
      simp only [callEach, harbiter, htable, hrest]
      rfl

variable (a : Arbiter) (t : ProcessTable)

theorem sameJob_deliver (r : Report) :
    (deliver (fun a t _ => passThrough a t) a t r).1.SameJob a := by
  unfold deliver
  split
  · exact .refl a
  · exact .refl a
  · rw [callEach_passThrough]
    exact ⟨rfl, rfl, rfl⟩

theorem table_deliver (r : Report) :
    (deliver (fun a t _ => passThrough a t) a t r).2.1 = t := by
  unfold deliver
  split
  · rfl
  · rfl
  · rw [callEach_passThrough]

/-! ## Calls at the only level -/

/-- A call at the only level is decided by the verdict on its request. -/
theorem decision_arbitrateAt_one (request : Request) :
    (a.arbitrateAt 1 t request).decision = (a.judge request).1.decision := by
  rw [arbitrateAt_one, arbitrateOutermost]
  dsimp only
  split <;> rfl

/-- A call at the only level is counted in the table iff it is allowed. -/
theorem table_arbitrateAt_one (request : Request) :
    (a.arbitrateAt 1 t request).table = account (a.judge request).1.decision request t := by
  rw [arbitrateAt_one, arbitrateOutermost]
  dsimp only
  split
  · exact table_deliver ..
  · rfl

/-- A call changes neither tree nor settings nor sink. -/
theorem sameJob_arbitrateAt (depth : Nat) (request : Request) :
    (a.arbitrateAt depth t request).arbiter.SameJob a := by
  by_cases hdepth : depth = 1
  · subst hdepth
    rw [arbitrateAt_one, arbitrateOutermost]
    dsimp only
    split
    · exact (sameJob_deliver ..).trans ⟨rfl, rfl, rfl⟩
    · exact ⟨rfl, rfl, rfl⟩
  · rw [arbitrateAt_of_ne_one hdepth]
    exact ⟨rfl, rfl, rfl⟩

theorem sameJob_tearDown : a.tearDown.1.SameJob a := by
  unfold tearDown
  split
  · exact .refl a
  · exact ⟨rfl, rfl, rfl⟩

end Arbiter

end AccessPolicy
