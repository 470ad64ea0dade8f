import AccessPolicy.Proofs.Storing
import AccessPolicy.Stored.Report

/-!
# AccessPolicy.Proofs.ReportStoring

Reports are read back from their stored form.

The members of an object stand in any order, those of the decision inside a report as well as
those of the report.  Only the member for the parent process may be left out, and only where
the process has none.

* `Decision.ofDoc_of_storedAs`, `Report.ofDoc_of_storedAs` — every such form is read back;
* `Notice.reads_back` — and so are all texts that write them, which is the same for a report
  and for what is detached from it.
-/

namespace AccessPolicy

open Json

/-! ## Single values -/

theorem readUInt16_ofNat (n : UInt16) : readUInt16 (Value.ofNat n.toNat).toDoc = .ok n := by
  rw [readUInt16, readNat_ofNat n.toNat_lt_size]
  exact congrArg Except.ok n.ofNat_toNat

theorem readUInt32_ofNat (n : UInt32) : readUInt32 (Value.ofNat n.toNat).toDoc = .ok n := by
  rw [readUInt32, readNat_ofNat n.toNat_lt_size]
  exact congrArg Except.ok n.ofNat_toNat

theorem Operation.ofDoc_fullName (op : Operation) :
    Operation.ofDoc (Value.string op.fullName).toDoc = .ok op := by
  cases op <;> rfl

theorem Reason.ofDoc_name (reason : Reason) :
    Reason.ofDoc (Value.string reason.name).toDoc = .ok reason := by
  cases reason <;> rfl

theorem ReportLevel.ofDoc_name (level : ReportLevel) :
    ReportLevel.ofDoc (Value.string level.name).toDoc = .ok level := by
  cases level <;> rfl

theorem Action.ofDoc_name (action : Action) :
    Action.ofDoc (Value.string action.name).toDoc = .ok action := by
  cases action <;> rfl

/-- What may be null is read back, if nothing else is written as null. -/
theorem readOptional_ofOption {α : Type} {read : Reader α} {write : α → Value}
    (hread : ∀ a, read (write a).toDoc = .ok a) (hvalue : ∀ a, write a ≠ .null) (o : Option α) :
    readOptional read (Value.ofOption write o).toDoc = .ok o := by
  cases o with
  | none => rfl
  | some a =>
      have hpresent : readOptional read (write a).toDoc = some <$> read (write a).toDoc := by
        cases hwrite : write a with
        | null => exact absurd hwrite (hvalue a)
        | _ => rfl
      rw [Value.ofOption, hpresent, hread]
      rfl

/-- The process that another one may have as its parent. -/
def parentValue (parent : Option UInt32) : Value := .ofOption (fun pid => .ofNat pid.toNat) parent

theorem readOptional_parentValue (parent : Option UInt32) :
    readOptional readUInt32 (parentValue parent).toDoc = .ok parent :=
  readOptional_ofOption readUInt32_ofNat (by simp [Value.ofNat]) parent

/-- Numbers of at most 64 bits can be written. -/
theorem isNatural_ofNat {n : Nat} (h : n < UInt64.size) : (Value.ofNat n).IsNatural :=
  ⟨Int.natCast_nonneg _, Int.ofNat_lt.2 h⟩

/-! ## Decisions -/

namespace Decision

/-- The members of the stored form of a decision. -/
def members (d : Decision) : List (String × Value) :=
  [("allowed", .bool d.allowed),
   ("reported", .bool d.reported),
   ("unexpected", .bool d.unexpected),
   ("matched_depth", .ofNat d.matchedDepth.toNat),
   ("reason", .string d.reason.name)]

/-- A stored form of a decision; none of its members is left out. -/
def StoredAs (d : Decision) (v : Value) : Prop :=
  ∃ members, v = .object members ∧ Abridges members d.members []

theorem fits_members (d : Decision) : ∀ m ∈ d.members, schema.Fits m := by
  simp only [members, List.forall_mem_cons]
  exact ⟨⟨_, rfl, Field.check_of rfl⟩, ⟨_, rfl, Field.check_of rfl⟩, ⟨_, rfl, Field.check_of rfl⟩,
    ⟨_, rfl, Field.check_of (readUInt16_ofNat _)⟩, ⟨_, rfl, Field.check_of (Reason.ofDoc_name _)⟩,
    by simp⟩

theorem nodup_members (d : Decision) : (d.members.map (·.1)).Nodup := by
  show ["allowed", "reported", "unexpected", "matched_depth", "reason"].Nodup
  decide

/-- A decision is read from each of its stored forms. -/
theorem ofDoc_of_storedAs {d : Decision} {v : Value} (h : d.StoredAs v) :
    Decision.ofDoc v.toDoc = .ok d := by
  obtain ⟨given, rfl, habridges⟩ := h
  have hkeys := d.nodup_members
  have hread := Schema.read_of_abridges habridges hkeys d.fits_members
  have hallowed : (givenBy given).get "allowed" readBool = .ok d.allowed :=
    get_of_abridges habridges hkeys (v := .bool d.allowed) rfl (by simp [members]) (by simp)
  have hreported : (givenBy given).get "reported" readBool = .ok d.reported :=
    get_of_abridges habridges hkeys (v := .bool d.reported) rfl (by simp [members]) (by simp)
  have hunexpected : (givenBy given).get "unexpected" readBool = .ok d.unexpected :=
    get_of_abridges habridges hkeys (v := .bool d.unexpected) rfl (by simp [members]) (by simp)
  have hdepth : (givenBy given).get "matched_depth" readUInt16 = .ok d.matchedDepth :=
    get_of_abridges habridges hkeys (readUInt16_ofNat _) (by simp [members]) (by simp)
  have hreason : (givenBy given).get "reason" Reason.ofDoc = .ok d.reason :=
    get_of_abridges habridges hkeys d.reason.ofDoc_name (by simp [members]) (by simp)
  simp only [Decision.ofDoc, hread, hallowed, hreported, hunexpected, hdepth, hreason, bind,
    Except.bind]
  rfl

theorem storedAs_toValue (d : Decision) : d.StoredAs d.toValue := ⟨d.members, rfl, .refl _ _⟩

theorem isNatural_of_storedAs {d : Decision} {v : Value} (h : d.StoredAs v) : v.IsNatural := by
  obtain ⟨given, rfl, habridges⟩ := h
  have hdepth : (Value.ofNat d.matchedDepth.toNat).IsNatural :=
    isNatural_ofNat (Nat.lt_trans d.matchedDepth.toNat_lt_size (by decide))
  refine allMembersNatural_iff.2 fun x hx => ?_
  have hmem := habridges.subset hx
  simp only [members, List.mem_cons, List.not_mem_nil, or_false] at hmem
  rcases hmem with rfl | rfl | rfl | rfl | rfl
  · exact trivial
  · exact trivial
  · exact trivial
  · exact hdepth
  · exact trivial

end Decision

/-! ## Reports -/

namespace Report

/-- The members of the stored form of a report, with its decision in one of its own. -/
def members (r : Report) (decision : Value) : List (String × Value) :=
  [("pip_id", .ofNat r.pipId.toNat),
   ("process_id", .ofNat r.process.toNat),
   ("parent_process_id", parentValue r.parent),
   ("operation", .string r.operation.fullName),
   ("path", .string r.path),
   ("decision", decision),
   ("policy", r.policy.toValue),
   ("level", .string r.level.name),
   ("action", .string r.action.name)]

/-- The member that may be left out. -/
def defaults : List (String × Value) := [("parent_process_id", .null)]

/-- A stored form of a report, abridged or not. -/
def StoredAs (r : Report) (v : Value) : Prop :=
  ∃ decision members, r.decision.StoredAs decision ∧ v = .object members ∧
    Abridges members (r.members decision) defaults

variable {r : Report} {decision : Value}

theorem fits_members (h : r.decision.StoredAs decision) :
    ∀ m ∈ r.members decision, schema.Fits m := by
  simp only [members, List.forall_mem_cons]
  exact ⟨⟨_, rfl, Field.check_of (readUInt64_ofNat _)⟩,
    ⟨_, rfl, Field.check_of (readUInt32_ofNat _)⟩,
    ⟨_, rfl, Field.check_of (readOptional_parentValue _)⟩,
    ⟨_, rfl, Field.check_of (Operation.ofDoc_fullName _)⟩, ⟨_, rfl, Field.check_of rfl⟩,
    ⟨_, rfl, Field.check_of (Decision.ofDoc_of_storedAs h)⟩,
    ⟨_, rfl, Field.check_of (PolicyBits.ofDoc_toValue _)⟩,
    ⟨_, rfl, Field.check_of (ReportLevel.ofDoc_name _)⟩,
    ⟨_, rfl, Field.check_of (Action.ofDoc_name _)⟩, by simp⟩

theorem nodup_members (r : Report) (decision : Value) :
    ((r.members decision).map (·.1)).Nodup := by
  show ["pip_id", "process_id", "parent_process_id", "operation", "path", "decision", "policy",
    "level", "action"].Nodup
  decide

/-- A report is read from each of its stored forms. -/
theorem ofDoc_of_storedAs {v : Value} (h : r.StoredAs v) : Report.ofDoc v.toDoc = .ok r := by
  obtain ⟨decision, given, hstored, rfl, habridges⟩ := h
  have hkeys := r.nodup_members decision
  have hread := Schema.read_of_abridges habridges hkeys (fits_members hstored)
  have hpipId : (givenBy given).get "pip_id" readUInt64 = .ok r.pipId :=
    get_of_abridges habridges hkeys (readUInt64_ofNat _) (by simp [members]) (by simp [defaults])
  have hprocess : (givenBy given).get "process_id" readUInt32 = .ok r.process :=
    get_of_abridges habridges hkeys (readUInt32_ofNat _) (by simp [members]) (by simp [defaults])
  have hparent : (givenBy given).getD "parent_process_id" (readOptional readUInt32) none =
      .ok r.parent :=
    getD_of_abridges habridges hkeys (readOptional_parentValue _) (by simp [members])
      (by simp [defaults, Value.toDoc, readOptional])
  have hoperation : (givenBy given).get "operation" Operation.ofDoc = .ok r.operation :=
    get_of_abridges habridges hkeys r.operation.ofDoc_fullName (by simp [members])
      (by simp [defaults])
  have hpath : (givenBy given).get "path" readString = .ok r.path :=
    get_of_abridges habridges hkeys (v := .string r.path) rfl (by simp [members])
      (by simp [defaults])
  have hdecision : (givenBy given).get "decision" Decision.ofDoc = .ok r.decision :=
    get_of_abridges habridges hkeys (Decision.ofDoc_of_storedAs hstored) (by simp [members])
      (by simp [defaults])
  have hpolicy : (givenBy given).get "policy" PolicyBits.ofDoc = .ok r.policy :=
    get_of_abridges habridges hkeys r.policy.ofDoc_toValue (by simp [members])
      (by simp [defaults])
  have hlevel : (givenBy given).get "level" ReportLevel.ofDoc = .ok r.level :=
    get_of_abridges habridges hkeys r.level.ofDoc_name (by simp [members]) (by simp [defaults])
  have haction : (givenBy given).get "action" Action.ofDoc = .ok r.action :=
    get_of_abridges habridges hkeys r.action.ofDoc_name (by simp [members]) (by simp [defaults])
  simp only [Report.ofDoc, hread, hpipId, hprocess, hparent, hoperation, hpath, hdecision, hpolicy,
    hlevel, haction, bind, Except.bind]
  rfl

/-- The full stored form of a report is one of its stored forms. -/
theorem storedAs_toValue (r : Report) : r.StoredAs r.toValue :=
  ⟨r.decision.toValue, r.members r.decision.toValue, r.decision.storedAs_toValue, rfl, .refl _ _⟩

/-- The stored form of a report without the member for the parent. -/
def parentless (r : Report) : Value :=
  .object ((r.members r.decision.toValue).filter fun m => m.1 ≠ "parent_process_id")

/-- It is one of the stored forms of a process without parent. -/
theorem storedAs_parentless (h : r.parent = none) : r.StoredAs r.parentless := by
  refine ⟨r.decision.toValue, _, r.decision.storedAs_toValue, rfl,
    [("parent_process_id", parentValue r.parent)], ?_, by simp [h, defaults, parentValue,
      Value.ofOption]⟩
  -- The member is the third one.
  have hfull : r.members r.decision.toValue =
      (r.members r.decision.toValue).take 2 ++ ("parent_process_id", parentValue r.parent) ::
        (r.members r.decision.toValue).drop 3 := rfl
  have hothers : (r.members r.decision.toValue).filter (fun m => m.1 ≠ "parent_process_id") =
      (r.members r.decision.toValue).take 2 ++ (r.members r.decision.toValue).drop 3 := rfl
  rw [hothers, hfull]
  exact (List.perm_append_singleton _ _).trans List.perm_middle.symm

/-- Stored forms can be written: all of their numbers are natural, of 64 bits. -/
theorem isNatural_of_storedAs {v : Value} (h : r.StoredAs v) : v.IsNatural := by
  obtain ⟨decision, given, hstored, rfl, habridges⟩ := h
  have hpipId : (Value.ofNat r.pipId.toNat).IsNatural := isNatural_ofNat r.pipId.toNat_lt_size
  have hpid (pid : UInt32) : (Value.ofNat pid.toNat).IsNatural :=
    isNatural_ofNat (Nat.lt_trans pid.toNat_lt_size (by decide))
  have hparent : (parentValue r.parent).IsNatural := by
    cases r.parent with
    | none => exact trivial
    | some pid => exact hpid pid
  refine allMembersNatural_iff.2 fun x hx => ?_
  have hmem := habridges.subset hx
  simp only [members, List.mem_cons, List.not_mem_nil, or_false] at hmem
  rcases hmem with rfl | rfl | rfl | rfl | rfl | rfl | rfl | rfl | rfl
  · exact hpipId
  · exact hpid r.process
  · exact hparent
  · exact trivial
  · exact trivial
  · exact Decision.isNatural_of_storedAs hstored
  · exact trivial
  · exact trivial
  · exact trivial

end Report

/-! ## Reports that are handed over -/

namespace Notice

theorem ofReport_report (n : Notice) : ofReport n.report = n.detach := rfl

theorem ofText_of_storedAs {n : Notice} {v : Value} {s : String} (h : n.report.StoredAs v)
    (hwrites : v.WrittenAs s) : Notice.ofText s = .ok n.detach := by
  rw [Notice.ofText, Report.ofText, readText_of_writes hwrites (Report.ofDoc_of_storedAs h)]
  exact congrArg Except.ok n.ofReport_report

/-- **Round trip**: a report that was handed over is read back from its text, and, if there is
no parent, from the text without the member for it; so it is from every text that writes one of
its stored forms, in whatever order its members stand and however it is spelled.  What is read
has a path of its own and is what is detached from the report; it reports the same, and it has
the same text. -/
theorem reads_back (n : Notice) :
    Notice.ofText n.text = .ok n.detach ∧
    (n.parent = none → Notice.ofText n.report.parentless.text = .ok n.detach) ∧
    (∀ v s, n.report.StoredAs v → v.WrittenAs s → Notice.ofText s = .ok n.detach) ∧
    n.detach.report = n.report ∧ n.detach.path = .kept n.path.text ∧ n.detach.text = n.text := by
  have hread : ∀ v s, n.report.StoredAs v → v.WrittenAs s → Notice.ofText s = .ok n.detach :=
    fun _ _ => ofText_of_storedAs
  have hline (v : Value) (h : n.report.StoredAs v) : Notice.ofText v.text = .ok n.detach :=
    hread v v.text h (writes_text (Report.isNatural_of_storedAs h))
  exact ⟨hline _ n.report.storedAs_toValue,
    fun hparent => hline _ (Report.storedAs_parentless hparent), hread, rfl, rfl, rfl⟩

/-- A report whose path holds a quote, a backslash and a line feed. -/
def sampleNotice : Notice :=
  { pipId := 18446744073709551615
    process := 7
    parent := none
    operation := .read
    path := .lent "/a\"\\\n"
    decision := ⟨true, true, false, 65535, .granted⟩
    policy := ⟨0x101⟩
    level := .reportExplicit
    action := .allow }

/-- What it reports, with the members in the opposite order. -/
def sampleReversed : Value :=
  .object (sampleNotice.report.members sampleNotice.decision.toValue).reverse

/-- The sample is read from its text, from the one without the parent and from one in the
opposite order. -/
theorem reads_back_sample :
    sampleNotice.parent = none ∧ sampleNotice.report.StoredAs sampleReversed ∧
      sampleReversed.WrittenAs sampleReversed.text ∧
      Notice.ofText sampleNotice.text = .ok sampleNotice.detach ∧
      Notice.ofText sampleNotice.report.parentless.text = .ok sampleNotice.detach ∧
      Notice.ofText sampleReversed.text = .ok sampleNotice.detach := by
  have hstored : sampleNotice.report.StoredAs sampleReversed :=
    ⟨_, _, sampleNotice.decision.storedAs_toValue, rfl, [], by simp,
      by simp⟩
  have hwritten := writes_text (Report.isNatural_of_storedAs hstored)
  obtain ⟨hread, hparentless, hall, -⟩ := reads_back sampleNotice
  exact ⟨rfl, hstored, hwritten, hread, hparentless rfl, hall _ _ hstored hwritten⟩

end Notice

end AccessPolicy
