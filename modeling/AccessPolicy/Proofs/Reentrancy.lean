import AccessPolicy.Proofs.Callbacks
import AccessPolicy.Proofs.Reporting
import Mathlib.Data.List.Induction

/-!
# AccessPolicy.Proofs.Reentrancy

Which levels a thread has entered, told from the moves of a program, and what this means for
its calls.

The guards of a thread are numbered as they are entered.  A guard *lives* until it is given
up, in whatever order this happens:

1. the counter of a thread, which only goes up and down by one, is the number of its guards
   that live and of its calls under way that have entered a level of their own;
2. a guard tells what the depth was when it had been entered, and is the only one iff no
   other level is entered now;
3. a call leaves its thread as it was, also when its sink panics;
4. a call below another level is passed through and counted, and that is all it does.

* `thread_step_cases` — what a move does to its thread;
* `tracks_after` — the guards that are held are those that live, and each level is counted
  once;
* `reentrancy_discipline` — rules 1 to 4, and that a call which a sink makes is below
  another level.
-/

namespace AccessPolicy

namespace Guards

@[simp] theorem held_begun (g : Guards) (guard : Option Nat) : (g.begun guard).held = g.held := by
  cases guard <;> rfl

@[simp] theorem held_ended (g : Guards) (guard : Option Nat) : (g.ended guard).held = g.held := by
  cases guard <;> rfl

@[simp] theorem issued_begun (g : Guards) (guard : Option Nat) :
    (g.begun guard).issued = g.issued := by
  cases guard <;> rfl

@[simp] theorem issued_ended (g : Guards) (guard : Option Nat) :
    (g.ended guard).issued = g.issued := by
  cases guard <;> rfl

theorem depth_begun (g : Guards) (guard : Option Nat) :
    (g.begun guard).depth = g.depth + guard.isNone.toNat := by
  cases guard <;> rfl

theorem depth_ended (g : Guards) (guard : Option Nat) :
    (g.ended guard).depth = g.depth - guard.isNone.toNat := by
  cases guard <;> rfl

end Guards

namespace Thread

/-- A guard is held iff its number is among those of the guards that are held. -/
theorem holds_iff {t : Thread} {guard : Option Nat} :
    t.holds guard = true ↔ ∀ g ∈ guard, g ∈ t.guards.held.map (·.number) := by
  cases guard with
  | none => simp [holds]
  | some g => simp [holds, Guards.find?]

/-- The guards that are held are those among the first `entered` that were not given up, the
level of a call under way is still entered, and the counter of the thread counts each level
once. -/
structure Tracks (t : Thread) (entered : Nat) (left : List Nat) : Prop where
  issued : t.guards.issued = entered
  numbers : t.guards.held.map (·.number) = (List.range entered).filter (· ∉ left)
  left_lt : ∀ n ∈ left, n < entered
  holds : ∀ d ∈ t.deliveries, t.holds d.guard = true
  depth : t.guards.depth = t.guards.held.length + t.ownLevels

variable {t : Thread} {entered : Nat} {left : List Nat}

theorem tracks_fresh : fresh.Tracks 0 [] :=
  ⟨rfl, rfl, fun _ hn => absurd hn List.not_mem_nil, fun _ hd => absurd hd List.not_mem_nil, rfl⟩

theorem Tracks.enter (h : t.Tracks entered left) :
    (Thread.mk t.guards.enter.2 t.deliveries).Tracks (entered + 1) left := by
  refine ⟨congrArg (· + 1) h.issued, ?_, fun n hn => Nat.lt_succ_of_lt (h.left_lt n hn),
    fun d hd => ?_, ?_⟩
  · have hnew : entered ∉ left := fun hmem => Nat.lt_irrefl _ (h.left_lt _ hmem)
    simp only [Guards.enter, List.map_append, h.numbers, h.issued, List.range_succ,
      List.filter_append]
    simp [hnew]
  · have hheld := holds_iff.1 (h.holds d hd)
    refine holds_iff.2 fun g hg => ?_
    simp only [Guards.enter, List.map_append, List.mem_append]
    exact .inl (hheld g hg)
  · have hdepth := h.depth
    simp only [Guards.enter, Guards.raise, ownLevels, List.length_append,
      List.length_singleton] at hdepth ⊢
    omega

/-- The numbers of the guards that are held are distinct, so only one of them is given up. -/
theorem Tracks.leave (h : t.Tracks entered left) {g : Nat} (hheld : t.holds (some g) = true)
    (hfree : t.uses g = false) :
    (Thread.mk (t.guards.leave g) t.deliveries).Tracks entered (left ++ [g]) := by
  have hmem : g ∈ t.guards.held.map (·.number) := holds_iff.1 hheld g rfl
  have hdistinct : (t.guards.held.map (·.number)).Nodup :=
    h.numbers ▸ List.nodup_range.filter _
  have hnumbers : (t.guards.leave g).held.map (·.number) =
      (t.guards.held.map (·.number)).erase g := by
    rw [hdistinct.erase_eq_filter, Guards.leave, List.filter_map]
    simp [Function.comp_def, bne, beq_eq_decide]
  refine ⟨h.issued, ?_, fun n hn => ?_, fun d hd => ?_, ?_⟩
  · rw [hnumbers, hdistinct.erase_eq_filter, h.numbers, List.filter_filter]
    refine List.filter_congr fun n _ => ?_
    simp [and_comm, bne, beq_eq_decide]
  · rcases List.mem_append.1 hn with hleft | hg
    · exact h.left_lt n hleft
    · obtain rfl := List.mem_singleton.1 hg
      exact List.mem_range.1 (List.mem_of_mem_filter (h.numbers ▸ hmem))
  · have hdelivered := holds_iff.1 (h.holds d hd)
    refine holds_iff.2 fun g' hg' => ?_
    rw [hnumbers, hdistinct.mem_erase_iff]
    refine ⟨?_, hdelivered g' hg'⟩
    rintro rfl
    rw [uses, List.any_eq_false] at hfree
    exact hfree d hd (decide_eq_true hg')
  · have hfewer := congrArg List.length hnumbers
    rw [List.length_erase_of_mem hmem, List.length_map, List.length_map] at hfewer
    have hpos := List.length_pos_of_mem hmem
    rw [List.length_map] at hpos
    have hdepth : (t.guards.leave g).depth = t.guards.depth - 1 := rfl
    rw [hdepth, h.depth, hfewer]
    exact Nat.sub_add_comm hpos

/-- A call counts the level of its own that it enters. -/
theorem Tracks.begun (h : t.Tracks entered left) {d : Delivery} (hheld : t.holds d.guard = true) :
    (Thread.mk (t.guards.begun d.guard) (d :: t.deliveries)).Tracks entered left := by
  have hsame := t.guards.held_begun d.guard
  refine ⟨(Guards.issued_begun ..).trans h.issued, hsame.symm ▸ h.numbers, h.left_lt,
    fun d' hd' => ?_, ?_⟩
  · have hentered : t.holds d'.guard = true := by
      rcases List.mem_cons.1 hd' with rfl | hd'
      · exact hheld
      · exact h.holds d' hd'
    exact holds_iff.2 (hsame.symm ▸ holds_iff.1 hentered)
  · have hdepth := h.depth
    rw [ownLevels] at hdepth
    rw [Guards.depth_begun, ownLevels, List.countP_cons, hsame, hdepth]
    cases d.guard <;> rfl

/-- When it is over, it counts it no more. -/
theorem Tracks.ended (h : t.Tracks entered left) {d : Delivery} {ds : List Delivery}
    (hds : t.deliveries = d :: ds) :
    (Thread.mk (t.guards.ended d.guard) ds).Tracks entered left := by
  have hsame := t.guards.held_ended d.guard
  refine ⟨(Guards.issued_ended ..).trans h.issued, hsame.symm ▸ h.numbers, h.left_lt,
    fun d' hd' => ?_, ?_⟩
  · have hentered := h.holds d' (hds ▸ List.mem_cons_of_mem _ hd')
    exact holds_iff.2 (hsame.symm ▸ holds_iff.1 hentered)
  · have hdepth := h.depth
    rw [ownLevels, hds, List.countP_cons] at hdepth
    rw [Guards.depth_ended, hsame, ownLevels, hdepth]
    cases d.guard <;> rfl

/-- While a call is under way, its level is counted. -/
theorem Tracks.depth_pos (h : t.Tracks entered left) (hds : t.deliveries ≠ []) :
    0 < t.guards.depth := by
  obtain ⟨d, hd⟩ := List.exists_mem_of_ne_nil _ hds
  have hheld := holds_iff.1 (h.holds d hd)
  rw [h.depth]
  cases hguard : d.guard with
  | none =>
      have hown : 0 < t.ownLevels := List.countP_pos_iff.2 ⟨d, hd, by rw [hguard]; rfl⟩
      exact Nat.add_pos_right _ hown
  | some g =>
      have hmem := List.length_pos_of_mem (hheld g hguard)
      rw [List.length_map] at hmem
      exact Nat.add_pos_left hmem _

end Thread

/-! ## Moves -/

/-- Whether an act enters a level or gives one up. -/
def Act.movesGuards : Act → Bool
  | .enter => true
  | .leave _ => true
  | _ => false

/-- Whether a move enters a level. -/
def Move.enters : Move → Bool
  | .act .enter => true
  | _ => false

theorem Session.guards_onTable (s : Session) (table : Nat)
    (f : ProcessTable → Answer × ProcessTable × List Event) :
    (s.onTable table f).session.guards = s.guards := by
  unfold onTable
  split <;> rfl

namespace Program

/-- Number of levels that the moves of a thread enter. -/
def entered (i : Nat) (moves : List (Nat × Move)) : Nat :=
  moves.countP fun m => m.1 = i && m.2.enters

/-- The guard that a move of a thread gives up. -/
def left? (p : Program) (i : Nat) : Nat × Move → Option Nat
  | (j, .act (.leave guard)) =>
      if j = i ∧ (p.act j (.leave guard)).answer = .done then some guard else none
  | _ => none

/-- The guards that the moves of a thread give up. -/
def left (p : Program) (i : Nat) : List (Nat × Move) → List Nat
  | [] => []
  | m :: moves => (p.left? i m).toList ++ (p.step m.1 m.2).left i moves

/-- The guards of a thread that live after some moves: those that were entered and not given
up. -/
def live (p : Program) (i : Nat) (moves : List (Nat × Move)) : List Nat :=
  (List.range (entered i moves)).filter (· ∉ p.left i moves)

variable {p : Program} {i : Nat}

theorem entered_concat (i : Nat) (moves : List (Nat × Move)) (m : Nat × Move) :
    entered i (moves ++ [m]) = entered i moves + (m.1 = i && m.2.enters).toNat :=
  countP_concat ..

theorem left_concat (p : Program) (i : Nat) (moves : List (Nat × Move)) (m : Nat × Move) :
    p.left i (moves ++ [m]) = p.left i moves ++ ((p.after moves).left? i m).toList := by
  induction moves generalizing p with
  | nil => exact List.append_nil _
  | cons x moves ih => rw [List.cons_append, left, ih, left, List.append_assoc]; rfl

theorem left?_of_ne {j : Nat} (h : i ≠ j) (p : Program) (m : Move) : p.left? i (j, m) = none := by
  unfold left?
  split
  · rename_i hm
    obtain ⟨rfl, -⟩ := Prod.mk.inj hm
    exact if_neg fun hleft => h hleft.1.symm
  · rfl

/-- A move concerns no thread but its own. -/
theorem threads_step_of_ne {j : Nat} (h : i ≠ j) (p : Program) (m : Move) :
    (p.step j m).threads i = p.threads i := by
  cases m with
  | finish keep =>
      rw [step]
      split
      · rfl
      · exact Function.update_of_ne h ..
  | act act =>
      rw [step]
      split
      · exact Function.update_of_ne h ..
      · exact Function.update_of_ne h ..

theorem threads_act_of_none {act : Act} (h : begun? (p.act i act) act = none) :
    (p.step i (.act act)).threads =
      Function.update p.threads i ⟨(p.act i act).session.guards, (p.threads i).deliveries⟩ := by
  rw [step_act_of_none h]
  rfl

theorem thread_act_of_none {act : Act} (h : begun? (p.act i act) act = none) :
    (p.step i (.act act)).threads i =
      ⟨(p.act i act).session.guards, (p.threads i).deliveries⟩ := by
  rw [threads_act_of_none h]
  exact Function.update_self ..

theorem threads_act_of_some {act : Act} {d : Delivery} (h : begun? (p.act i act) act = some d) :
    (p.step i (.act act)).threads =
      Function.update p.threads i
        ⟨(p.act i act).session.guards.begun d.guard, d :: (p.threads i).deliveries⟩ := by
  rw [step_act_of_some h]
  rfl

theorem threads_finish {d : Delivery} {ds : List Delivery}
    (h : (p.threads i).deliveries = d :: ds) (keep : Inbox → Inbox) :
    (p.step i (.finish keep)).threads =
      Function.update p.threads i ⟨(p.threads i).guards.ended d.guard, ds⟩ := by
  rw [step_finish h]
  rfl

/-- A guard is given up if it is held and no call under way uses it. -/
theorem act_leave (p : Program) (i g : Nat) :
    p.act i (.leave g) =
      if (p.threads i).holds (some g) = true ∧ (p.threads i).uses g = false then
        ⟨.done, none, { p.session i with guards := (p.threads i).guards.leave g }, []⟩
      else (p.session i).refuse := by
  have hguards : (p.session i).guards = (p.threads i).guards := rfl
  rw [Program.act, Thread.holds, Option.all_some, ← hguards]
  cases (p.threads i).uses g with
  | true => simp
  | false =>
      cases hheld : (p.session i).guards.find? g with
      | none => simp [Session.perform, hheld]
      | some _ => simp [Session.perform, hheld]

theorem guards_act {act : Act} (hact : act.movesGuards = false) :
    (p.act i act).session.guards = (p.threads i).guards := by
  cases act with
  | arbitrate seat guard request =>
      rcases p.act_arbitrate_cases i seat guard request with
        hrefused | ⟨hheld, a, k, t, ha, ht⟩
      · rw [hrefused]
        rfl
      · rw [act_arbitrate ha ht hheld]
        rfl
  | tearDown seat =>
      simp only [Program.act, Session.perform]
      split <;> rfl
  | enter => cases hact
  | leave g => cases hact
  | register table pid parent => exact (p.session i).guards_onTable ..
  | record table pid cls bytes => exact (p.session i).guards_onTable ..
  | retire table root => exact (p.session i).guards_onTable ..

/-- What a move does to its thread: it enters a level, or gives up a guard that no call under
way uses, or begins a call on a level that is held, or ends one, or leaves the thread alone. -/
theorem thread_step_cases (p : Program) (i : Nat) (m : Move) :
    (m = .act .enter ∧
      (p.step i m).threads i = ⟨(p.threads i).guards.enter.2, (p.threads i).deliveries⟩) ∨
    (∃ g, m = .act (.leave g) ∧ p.left? i (i, m) = some g ∧
      (p.threads i).holds (some g) = true ∧ (p.threads i).uses g = false ∧
      (p.step i m).threads i = ⟨(p.threads i).guards.leave g, (p.threads i).deliveries⟩) ∨
    (m.enters = false ∧ p.left? i (i, m) = none ∧
      ((∃ d, (p.threads i).holds d.guard = true ∧
          (p.step i m).threads i =
            ⟨(p.threads i).guards.begun d.guard, d :: (p.threads i).deliveries⟩) ∨
        (∃ d ds, (p.threads i).deliveries = d :: ds ∧
          (p.step i m).threads i = ⟨(p.threads i).guards.ended d.guard, ds⟩) ∨
        (p.step i m).threads i = p.threads i)) := by
  -- an act that neither enters a level nor gives one up, and is not reported
  have hother {act : Act} (hact : act.movesGuards = false)
      (hbegun : begun? (p.act i act) act = none) :
      (p.step i (.act act)).threads i = p.threads i := by
    rw [thread_act_of_none hbegun, guards_act hact]
  cases m with
  | finish keep =>
      refine .inr (.inr ⟨rfl, rfl, ?_⟩)
      cases hds : (p.threads i).deliveries with
      | nil => exact .inr (.inr (by simp only [step, hds]))
      | cons d ds =>
          refine .inr (.inl ⟨d, ds, rfl, ?_⟩)
          rw [threads_finish hds]
          exact Function.update_self ..
  | act act =>
      cases act with
      | enter => exact .inl ⟨rfl, thread_act_of_none rfl⟩
      | leave g =>
          have hthread : (p.step i (.act (.leave g))).threads i = _ := thread_act_of_none rfl
          by_cases hgiven : (p.threads i).holds (some g) = true ∧ (p.threads i).uses g = false
          · rw [act_leave, if_pos hgiven] at hthread
            refine .inr (.inl ⟨g, rfl, ?_, hgiven.1, hgiven.2, hthread⟩)
            rw [left?, act_leave, if_pos hgiven]
            exact if_pos ⟨rfl, rfl⟩
          · rw [act_leave, if_neg hgiven] at hthread
            refine .inr (.inr ⟨rfl, ?_, .inr (.inr hthread)⟩)
            rw [left?, act_leave, if_neg hgiven]
            exact if_neg fun hdone => Answer.noConfusion hdone.2
      | arbitrate seat guard request =>
          refine .inr (.inr ⟨rfl, rfl, ?_⟩)
          cases hreport : (p.act i (.arbitrate seat guard request)).report with
          | none => exact .inr (.inr (hother rfl (begun?_of_not_reported hreport ..)))
          | some r =>
              have hheld : (p.threads i).holds guard = true := by
                rcases p.act_arbitrate_cases i seat guard request with hrefused | ⟨hheld, -⟩
                · rw [hrefused] at hreport
                  cases hreport
                · exact hheld
              refine .inl ⟨⟨seat, guard⟩, hheld, ?_⟩
              rw [threads_act_of_some (begun?_of_reported hreport ..), guards_act rfl]
              exact Function.update_self ..
      | tearDown seat => exact .inr (.inr ⟨rfl, rfl, .inr (.inr (hother rfl rfl))⟩)
      | register table pid parent => exact .inr (.inr ⟨rfl, rfl, .inr (.inr (hother rfl rfl))⟩)
      | record table pid cls bytes => exact .inr (.inr ⟨rfl, rfl, .inr (.inr (hother rfl rfl))⟩)
      | retire table root => exact .inr (.inr ⟨rfl, rfl, .inr (.inr (hother rfl rfl))⟩)

/-! ## Runs -/

/-- The guards that a thread holds are those that live. -/
theorem tracks_after (h : p.threads i = .fresh) (moves : List (Nat × Move)) :
    ((p.after moves).threads i).Tracks (entered i moves) (p.left i moves) := by
  induction moves using List.reverseRecOn with
  | nil =>
      rw [after, List.foldl_nil, h]
      exact Thread.tracks_fresh
  | append_singleton moves m ih =>
      obtain ⟨j, m⟩ := m
      rw [after_concat, entered_concat, left_concat]
      by_cases hj : i = j
      · subst hj
        rcases (p.after moves).thread_step_cases i m with
          ⟨rfl, hthread⟩ | ⟨g, rfl, hleft, hheld, hfree, hthread⟩ | ⟨henters, hleft, hcases⟩
        · rw [hthread]
          simpa [Move.enters, left?] using ih.enter
        · rw [hthread, hleft]
          simpa [Move.enters] using ih.leave hheld hfree
        · simp only [hleft, henters, Bool.and_false, Bool.toNat_false, Nat.add_zero,
            Option.toList_none, List.append_nil]
          rcases hcases with ⟨d, hheld, hthread⟩ | ⟨d, ds, hds, hthread⟩ | hthread
          · rw [hthread]
            exact ih.begun hheld
          · rw [hthread]
            exact ih.ended hds
          · rw [hthread]
            exact ih
      · rw [threads_step_of_ne hj, left?_of_ne hj, decide_eq_false (Ne.symm hj)]
        simpa using ih

/-- A guard that is held was given out for a level when that was entered. -/
theorem mem_held_after (h : p.threads i = .fresh) (moves : List (Nat × Move)) {g : Guard}
    (hg : g ∈ ((p.after moves).threads i).guards.held) :
    ∃ before since, moves = before ++ (i, .act .enter) :: since ∧
      g = ((p.after before).threads i).guards.enter.1 := by
  induction moves using List.reverseRecOn with
  | nil =>
      rw [after, List.foldl_nil, h] at hg
      cases hg
  | append_singleton moves m ih =>
      obtain ⟨j, m⟩ := m
      rw [after_concat] at hg
      have hearlier (hg : g ∈ ((p.after moves).threads i).guards.held) :
          ∃ before since, moves ++ [(j, m)] = before ++ (i, .act .enter) :: since ∧
            g = ((p.after before).threads i).guards.enter.1 := by
        obtain ⟨before, since, rfl, hguard⟩ := ih hg
        exact ⟨before, since ++ [(j, m)], by simp, hguard⟩
      by_cases hj : i = j
      · subst hj
        rcases (p.after moves).thread_step_cases i m with
          ⟨rfl, hthread⟩ | ⟨g', rfl, -, -, -, hthread⟩ | ⟨-, -, hcases⟩
        · rw [hthread] at hg
          rcases List.mem_append.1 hg with hold | hnew
          · exact hearlier hold
          · exact ⟨moves, [], rfl, List.mem_singleton.1 hnew⟩
        · rw [hthread] at hg
          exact hearlier (List.mem_of_mem_filter hg)
        · refine hearlier ?_
          rcases hcases with ⟨d, -, hthread⟩ | ⟨d, ds, -, hthread⟩ | hthread
          · rwa [hthread, Guards.held_begun] at hg
          · rwa [hthread, Guards.held_ended] at hg
          · rwa [hthread] at hg
      · rw [threads_step_of_ne hj] at hg
        exact hearlier hg

/-! ## Calls -/

/-- A request on a level that is not the only one leaves all threads as they are. -/
theorem threads_request {guard : Option Nat} (hlevels : (p.threads i).levels guard ≠ 1)
    (seat : Nat) (request : Request) :
    (p.step i (.act (.arbitrate seat guard request))).threads = p.threads := by
  rcases p.act_arbitrate_cases i seat guard request with hrefused | ⟨hheld, a, k, t, ha, ht⟩
  · have hbegun := begun?_of_not_reported (congrArg Step.report hrefused) seat guard request
    rw [threads_act_of_none hbegun, hrefused]
    exact Function.update_eq_self i p.threads
  · rw [step_of_levels_ne_one ha ht hheld hlevels]

/-- So do requests below another level, to whatever arbiters. -/
theorem threads_requests (hdepth : 0 < (p.threads i).guards.depth)
    (requests : List (Nat × Request)) :
    (p.after (requests.map fun x => (i, .act (.arbitrate x.1 none x.2)))).threads = p.threads := by
  induction requests generalizing p with
  | nil => rfl
  | cons x xs ih =>
      have hlevels : (p.threads i).levels none ≠ 1 := Nat.succ_ne_succ_iff.2 (Nat.ne_of_gt hdepth)
      have hfirst := threads_request hlevels x.1 x.2
      exact (ih (hfirst ▸ hdepth)).trans hfirst

/-- A call leaves all threads as they were: at once if nothing is reported, and else when its
sink, after some requests of its own, has returned or panicked. -/
def Restores (p : Program) (i seat : Nat) (guard : Option Nat) (request : Request) : Prop :=
  ((p.act i (.arbitrate seat guard request)).report = none →
    (p.step i (.act (.arbitrate seat guard request))).threads = p.threads) ∧
  ((p.act i (.arbitrate seat guard request)).report.isSome = true →
    ∀ requests : List (Nat × Request), ∀ keep,
      (p.after ((i, .act (.arbitrate seat guard request)) ::
        (requests.map fun x => (i, .act (.arbitrate x.1 none x.2))) ++
          [(i, .finish keep)])).threads = p.threads)

theorem restores (p : Program) (i seat : Nat) (guard : Option Nat) (request : Request) :
    p.Restores i seat guard request := by
  have hguards : (p.act i (.arbitrate seat guard request)).session.guards = (p.threads i).guards :=
    guards_act rfl
  constructor
  · intro hreport
    rw [threads_act_of_none (begun?_of_not_reported hreport ..), hguards]
    exact Function.update_eq_self i p.threads
  · intro hreport requests keep
    obtain ⟨r, hr⟩ := Option.isSome_iff_exists.1 hreport
    have hcalled := threads_act_of_some (begun?_of_reported hr seat guard request)
    rw [hguards] at hcalled
    have hthread : (p.step i (.act (.arbitrate seat guard request))).threads i =
        ⟨(p.threads i).guards.begun guard, ⟨seat, guard⟩ :: (p.threads i).deliveries⟩ := by
      rw [hcalled]
      exact Function.update_self ..
    have hdepth :
        0 < ((p.step i (.act (.arbitrate seat guard request))).threads i).guards.depth := by
      rw [hthread]
      exact Nat.lt_of_lt_of_eq Nat.one_pos (levels_of_report hreport).symm
    have hrequests := threads_requests hdepth requests
    have hfinish := threads_finish
      ((congrArg Thread.deliveries (congrFun hrequests i)).trans (congrArg _ hthread)) keep
    rw [List.cons_append, after_cons, after_concat, hfinish, hrequests, hthread, hcalled,
      Function.update_idem, Guards.ended_begun]
    exact Function.update_eq_self i p.threads

/-- A call is passed through: whatever is asked of whatever arbiter, it is answered so,
nothing is reported or logged, and all that changes is one number of the arbiter. -/
def PassesThrough (p : Program) (i seat : Nat) (guard : Option Nat) (request : Request) : Prop :=
  ∀ a k, p.seats[seat]? = some ⟨a, k⟩ → k < p.tables.length →
    p.act i (.arbitrate seat guard request) =
      ⟨.decision .passThrough, none,
        { p.session i with seats := p.seats.set seat ⟨a.countSuppressed, k⟩ }, []⟩ ∧
    p.step i (.act (.arbitrate seat guard request)) =
      { p with seats := p.seats.set seat ⟨a.countSuppressed, k⟩ }

theorem passesThrough {guard : Option Nat} (hheld : (p.threads i).holds guard = true)
    (hlevels : (p.threads i).levels guard ≠ 1) (seat : Nat) (request : Request) :
    p.PassesThrough i seat guard request := by
  intro a k hseat hk
  have htable := List.getElem?_eq_getElem hk
  exact ⟨act_of_levels_ne_one hseat htable hheld hlevels request,
    step_of_levels_ne_one hseat htable hheld hlevels request⟩

/-! ## Discipline -/

/-- The counter of a thread is the number of its levels. -/
theorem depth_after (h : p.threads i = .fresh) (moves : List (Nat × Move)) :
    ((p.after moves).threads i).guards.depth =
      (p.live i moves).length + ((p.after moves).threads i).ownLevels := by
  have htracks := tracks_after h moves
  rw [htracks.depth, ← List.length_map (·.number), htracks.numbers, live]

/-- A guard that lives is the only level iff no other guard lives and no call under way has
entered a level of its own. -/
theorem onlyOne_after (h : p.threads i = .fresh) (moves : List (Nat × Move)) {n : Nat}
    (hn : n ∈ p.live i moves) :
    ((p.after moves).threads i).guards.onlyOne = true ↔
      p.live i moves = [n] ∧ ((p.after moves).threads i).ownLevels = 0 := by
  have hpos := List.length_pos_of_mem hn
  rw [Guards.onlyOne, decide_eq_true_eq, depth_after h]
  constructor
  · intro hone
    obtain ⟨x, hx⟩ := List.length_eq_one_iff.1 (show (p.live i moves).length = 1 by omega)
    rw [hx] at hn ⊢
    obtain rfl := List.mem_singleton.1 hn
    exact ⟨rfl, by omega⟩
  · rintro ⟨hlive, hown⟩
    rw [hlive, hown]
    rfl

/-- A guard that lives tells the depth at which its level was entered. -/
theorem find?_after (h : p.threads i = .fresh) (moves : List (Nat × Move)) {n : Nat}
    (hn : n ∈ p.live i moves) :
    ∃ g before since, ((p.after moves).threads i).guards.find? n = some g ∧
      moves = before ++ (i, .act .enter) :: since ∧ entered i before = n ∧
      ((p.after before).act i .enter).answer = .guard g ∧
      g.depth = (p.live i (before ++ [(i, .act .enter)])).length +
        ((p.after before).threads i).ownLevels := by
  rw [live, ← (tracks_after h moves).numbers] at hn
  have hheld : ((p.after moves).threads i).holds (some n) = true :=
    Thread.holds_iff.2 fun g hg => Option.mem_some.1 hg ▸ hn
  obtain ⟨g, hg⟩ := Option.isSome_iff_exists.1 hheld
  have hnumber : g.number = n := by simpa using List.find?_some hg
  obtain ⟨before, since, hmoves, hguard⟩ := mem_held_after h moves (List.mem_of_find?_eq_some hg)
  have hentered : (p.after (before ++ [(i, .act .enter)])).threads i =
      ⟨((p.after before).threads i).guards.enter.2, ((p.after before).threads i).deliveries⟩ := by
    rw [after_concat]
    exact thread_act_of_none rfl
  refine ⟨g, before, since, hg, hmoves, ?_, ?_, ?_⟩
  · rw [← hnumber, hguard, ← (tracks_after h before).issued]
    rfl
  · rw [hguard]
    rfl
  · have hdepth := depth_after h (before ++ [(i, .act .enter)])
    rw [hentered] at hdepth
    rw [hguard]
    exact hdepth

/-- **Discipline**: take a thread that has entered no level yet, in a program whose threads
and sinks move as they like.  After any moves:

1. the guards that it holds are those that live, and the counter of its depth is the number
   of these and of its calls under way that have entered a level of their own;
2. a guard that lives is the only level iff no other one is entered, and tells what the depth
   was when its own had been;
3. a call leaves the thread as it was, also when its sink requests something of any arbiter,
   and then returns or panics;
4. a call below another level is passed through;
5. so is a call, on a level of its own, that is made while a report is delivered.

Sessions are such programs, with the sinks that their arbiters have. -/
theorem reentrancy_discipline (h : p.threads i = .fresh) (moves : List (Nat × Move)) :
    let q := p.after moves
    let t := q.threads i
    t.guards.held.map (·.number) = p.live i moves ∧
      t.guards.depth = (p.live i moves).length + t.ownLevels ∧
      (∀ n ∈ p.live i moves,
        (t.guards.onlyOne = true ↔ p.live i moves = [n] ∧ t.ownLevels = 0) ∧
        ∃ g before since, t.guards.find? n = some g ∧
          moves = before ++ (i, .act .enter) :: since ∧ entered i before = n ∧
          ((p.after before).act i .enter).answer = .guard g ∧
          g.depth = (p.live i (before ++ [(i, .act .enter)])).length +
            ((p.after before).threads i).ownLevels) ∧
      (∀ seat guard request, q.Restores i seat guard request) ∧
      (∀ seat guard request, (∀ g ∈ guard, g ∈ p.live i moves) → 1 < t.levels guard →
        q.PassesThrough i seat guard request) ∧
      (t.deliveries ≠ [] → ∀ seat request, q.PassesThrough i seat none request) ∧
      ∀ s acts, p = .ofSession s → moves = sessionMoves s acts →
        q = .ofSession (s.after acts) := by
  have htracks := tracks_after h moves
  refine ⟨htracks.numbers, depth_after h moves, fun n hn => ?_, (p.after moves).restores i,
    fun seat guard request hlive hlevels => ?_, fun hds seat request => ?_, ?_⟩
  · exact ⟨onlyOne_after h moves hn, find?_after h moves hn⟩
  · refine passesThrough (Thread.holds_iff.2 fun g hg => ?_) (Nat.ne_of_gt hlevels) seat request
    rw [htracks.numbers]
    exact hlive g hg
  · have hdepth := htracks.depth_pos hds
    have hlevels : ((p.after moves).threads i).levels none ≠ 1 :=
      Nat.succ_ne_succ_iff.2 (Nat.ne_of_gt hdepth)
    exact passesThrough rfl hlevels seat request
  · rintro s acts rfl rfl
    exact after_sessionMoves s acts

/-- The first of two guards is given up before the second; on the level of the second, the
arbiter decides a request and hands its report to the sink, which has it torn down. -/
def overlappingMoves : List (Nat × Move) :=
  [(0, .act .enter), (0, .act .enter), (0, .act (.leave 0)),
    (0, .act (.arbitrate 0 (some 1) ScopeTree.sampleRequest)), (0, .act (.tearDown 0))]

/-- The program after these moves. -/
def overlapping : Program := (ofSession Session.echoingSession).after overlappingMoves

/-- The second guard, entered at depth 2, is then the only one, and the next request of the
sink is passed through. -/
theorem reentrancy_discipline_sample :
    (ofSession Session.echoingSession).threads 0 = .fresh ∧
      (ofSession Session.echoingSession).live 0 overlappingMoves = [1] ∧
      (overlapping.threads 0).guards.depth = 1 ∧
      (overlapping.threads 0).guards.onlyOne = true ∧
      (overlapping.threads 0).guards.find? 1 = some ⟨1, 2⟩ ∧
      (∃ before since, overlappingMoves = before ++ (0, .act .enter) :: since ∧
        entered 0 before = 1 ∧
        2 = ((ofSession Session.echoingSession).live 0 (before ++ [(0, .act .enter)])).length +
          (((ofSession Session.echoingSession).after before).threads 0).ownLevels) ∧
      overlapping.PassesThrough 0 0 none ⟨"no path", .write, 40, none, 48, true⟩ := by
  have hlive : (ofSession Session.echoingSession).live 0 overlappingMoves = [1] := by
    decide +kernel
  have hown : (overlapping.threads 0).ownLevels = 0 := by
    decide +kernel
  have hguard : (overlapping.threads 0).guards.find? 1 = some ⟨1, 2⟩ := by
    decide +kernel
  have hdelivery : (overlapping.threads 0).deliveries = [⟨0, some 1⟩] := by
    decide +kernel
  obtain ⟨-, hdepth, hguards, -, -, hsink, -⟩ :=
    reentrancy_discipline (p := ofSession Session.echoingSession) (i := 0) rfl overlappingMoves
  obtain ⟨hsole, g, before, since, hg, hmoves, hentered, -, htold⟩ :=
    hguards 1 (by rw [hlive]; decide)
  obtain rfl := Option.some.inj (hg.symm.trans hguard)
  refine ⟨rfl, hlive, ?_, hsole.2 ⟨hlive, hown⟩, hguard,
    ⟨before, since, hmoves, hentered, htold⟩, ?_⟩
  · rw [hlive] at hdepth
    exact hdepth.trans (congrArg (1 + ·) hown)
  · exact hsink (by rw [← overlapping, hdelivery]; exact List.cons_ne_nil _ _) 0 _

end Program

end AccessPolicy
