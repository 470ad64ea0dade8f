import AccessPolicy.Accounting.Layout

/-!
# AccessPolicy.Decision

The verdict on one access, and its frame of eight bytes:

```
flags  reason  depth (low, high)  0  0  0  0
```

where the flags are 1 for allowed, 2 for reported and 4 for unexpected.

* `ofFrame_frame` — a verdict is read back from its frame.
-/

namespace AccessPolicy

/-- Why a decision is as it is. -/
inductive Reason where
  /-- The access is part of one that is already being decided. -/
  | suppressed
  /-- A rule covers the access. -/
  | granted
  /-- No rule grants the access. -/
  | noCoveringGrant
  /-- The policy carries the veto. -/
  | explicitDeny
  /-- The policy could not be determined. -/
  | internalFault
  /-- No more accesses are admitted. -/
  | tearingDown
  deriving DecidableEq, Repr

namespace Reason

/-- All reasons, in the order of their codes. -/
def all : List Reason :=
  [.suppressed, .granted, .noCoveringGrant, .explicitDeny, .internalFault, .tearingDown]

/-- The code of a reason. -/
def code : Reason → Nat
  | .suppressed => 0
  | .granted => 1
  | .noCoveringGrant => 2
  | .explicitDeny => 3
  | .internalFault => 4
  | .tearingDown => 5

/-- The reason of a code. -/
def ofCode? (code : Nat) : Option Reason := all[code]?

/-- A reason in words. -/
def message : Reason → String
  | .suppressed => "nested call passed through"
  | .granted => "granted by policy"
  | .noCoveringGrant => "no rule grants this access"
  | .explicitDeny => "denied by policy rule"
  | .internalFault => "policy could not be determined"
  | .tearingDown => "job is tearing down"

/-- The name by which a reason is stored. -/
def name : Reason → String
  | .suppressed => "suppressed"
  | .granted => "granted"
  | .noCoveringGrant => "no_covering_grant"
  | .explicitDeny => "explicit_deny"
  | .internalFault => "internal_fault"
  | .tearingDown => "tearing_down"

theorem ofCode?_code (reason : Reason) : ofCode? reason.code = some reason := by
  cases reason <;> rfl

end Reason

/-- What becomes of an access. -/
inductive Action where
  /-- It proceeds and is covered. -/
  | allow
  /-- It is blocked. -/
  | deny
  /-- It proceeds although nothing covers it. -/
  | warn
  deriving DecidableEq, Repr

namespace Action

/-- All actions, in their order. -/
def all : List Action := [.allow, .deny, .warn]

/-- The name by which an action is stored. -/
def name : Action → String
  | .allow => "allow"
  | .deny => "deny"
  | .warn => "warn"

/-- The title of an action. -/
def title : Action → String
  | .allow => "Allow"
  | .deny => "Deny"
  | .warn => "Warn"

end Action

/-- The verdict on an access. -/
structure Decision where
  /-- Whether the access may proceed. -/
  allowed : Bool
  /-- Whether the access is reported. -/
  reported : Bool
  /-- Whether no rule covers the access. -/
  unexpected : Bool
  /-- The depth of the last rule that shaped the policy. -/
  matchedDepth : UInt16
  reason : Reason
  deriving DecidableEq, Repr

namespace Decision

/-- The verdict on an access that is part of one being decided. -/
def passThrough : Decision := ⟨true, false, false, 0, .suppressed⟩

/-- The verdict where a policy cannot be relied upon. -/
def failClosed (reason : Reason) : Decision := ⟨false, true, true, 0, reason⟩

/-- What becomes of the access. -/
def action (d : Decision) : Action :=
  if !d.allowed then .deny else if d.unexpected then .warn else .allow

/-! ## Frames -/

/-- Number of bytes of a frame. -/
def frameLength : Nat := 8

/-- The flags of a frame. -/
def flags (d : Decision) : Nat :=
  d.allowed.toNat + 2 * d.reported.toNat + 4 * d.unexpected.toNat

/-- The frame of a verdict. -/
def frame (d : Decision) : List UInt8 :=
  [UInt8.ofNat d.flags, UInt8.ofNat d.reason.code] ++ littleEndian 2 d.matchedDepth.toNat ++
    [0, 0, 0, 0]

/-- The verdict of a frame; the last four bytes do not matter. -/
def ofFrame : List UInt8 → Except LayoutError Decision
  | [flags, reason, low, high, _, _, _, _] =>
      if 8 ≤ flags then .error (.invalidField "flags" flags)
      else
        match Reason.ofCode? reason.toNat with
        | none => .error (.invalidField "reason" reason)
        | some why =>
            .ok
              { allowed := flags.toNat.testBit 0
                reported := flags.toNat.testBit 1
                unexpected := flags.toNat.testBit 2
                matchedDepth := UInt16.ofNat (ofLittleEndian [low, high])
                reason := why }
  | bytes => .error (.length frameLength bytes.length)

@[simp] theorem length_frame (d : Decision) : d.frame.length = frameLength := by
  simp [frame, frameLength]

/-- The three flags are read back from their sum. -/
theorem testBit_flags (allowed reported unexpected : Bool) :
    let flags := UInt8.ofNat (allowed.toNat + 2 * reported.toNat + 4 * unexpected.toNat)
    ¬ 8 ≤ flags ∧ flags.toNat.testBit 0 = allowed ∧ flags.toNat.testBit 1 = reported ∧
      flags.toNat.testBit 2 = unexpected := by
  cases allowed <;> cases reported <;> cases unexpected <;> decide

/-- A verdict is read back from its frame. -/
theorem ofFrame_frame (d : Decision) : ofFrame d.frame = .ok d := by
  obtain ⟨allowed, reported, unexpected, depth, reason⟩ := d
  have hdepth : UInt16.ofNat (ofLittleEndian (littleEndian 2 depth.toNat)) = depth := by
    have hlt : depth.toNat < Nat.pow 256 2 := depth.toNat_lt
    rw [ofLittleEndian_littleEndian, Nat.mod_eq_of_lt hlt, UInt16.ofNat_toNat]
  have hreason : (UInt8.ofNat reason.code).toNat = reason.code := by cases reason <;> rfl
  obtain ⟨hlt, hallowed, hreported, hunexpected⟩ := testBit_flags allowed reported unexpected
  simp only [littleEndian] at hdepth
  simp only [frame, flags, littleEndian, List.cons_append, List.nil_append, ofFrame, hreason,
    Reason.ofCode?_code, if_neg hlt, hallowed, hreported, hunexpected, hdepth]

end Decision

/-- How prominently an access is reported. -/
inductive ReportLevel where
  /-- Not at all. -/
  | ignore
  /-- Because it is unexpected, or because all accesses are reported. -/
  | report
  /-- Because a rule asks for it. -/
  | reportExplicit
  deriving DecidableEq, Repr

namespace ReportLevel

/-- All levels, in their order. -/
def all : List ReportLevel := [.ignore, .report, .reportExplicit]

/-- The name by which a level is stored. -/
def name : ReportLevel → String
  | .ignore => "ignore"
  | .report => "report"
  | .reportExplicit => "report_explicit"

/-- The title of a level. -/
def title : ReportLevel → String
  | .ignore => "Ignore"
  | .report => "Report"
  | .reportExplicit => "ReportExplicit"

end ReportLevel

end AccessPolicy
