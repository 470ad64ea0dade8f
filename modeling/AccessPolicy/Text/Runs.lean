/-!
# AccessPolicy.Text.Runs

Sets of code points.  A character property of the Unicode standard is kept as a
list of runs in ascending order; a run is an arithmetic progression of code
points, which keeps the alternating blocks of upper and lower case letters
short.  Membership is searched from the low end and stops at the first run that
begins beyond the code point asked for.
-/

namespace AccessPolicy.Text

/-- The code points `first`, `first + step`, and so on up to `last`. -/
structure Run where
  first : Nat
  last : Nat
  step : Nat
  deriving DecidableEq, Repr

/-- Whether a code point belongs to the run. -/
def Run.holds (r : Run) (n : Nat) : Bool :=
  decide (r.first ≤ n) && decide (n ≤ r.last) && (n - r.first) % r.step == 0

/-- Whether a code point belongs to one of the runs, which are listed in
ascending order. -/
def inRuns (n : Nat) : List Run → Bool
  | [] => false
  | r :: rs => decide (r.first ≤ n) && (r.holds n || inRuns n rs)

/-- A member of a run of the list is found, whatever stands behind that run. -/
theorem inRuns_of_holds {n : Nat} {r : Run} {rs : List Run} (h : r.holds n = true) :
    inRuns n (r :: rs) = true := by
  have hle : r.first ≤ n := by
    simp only [Run.holds, Bool.and_eq_true, decide_eq_true_eq] at h
    exact h.1.1
  simp [inRuns, hle, h]

/-- What is found belongs to some run of the list. -/
theorem exists_holds_of_inRuns {n : Nat} {rs : List Run} (h : inRuns n rs = true) :
    ∃ r ∈ rs, r.holds n = true := by
  induction rs with
  | nil => simp [inRuns] at h
  | cons r rs ih =>
      simp only [inRuns, Bool.and_eq_true, Bool.or_eq_true] at h
      rcases h.2 with hr | hrs
      · exact ⟨r, List.mem_cons_self, hr⟩
      · obtain ⟨r', hmem, hr'⟩ := ih hrs
        exact ⟨r', List.mem_cons_of_mem _ hmem, hr'⟩

end AccessPolicy.Text
