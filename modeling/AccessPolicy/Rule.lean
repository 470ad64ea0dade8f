import AccessPolicy.PolicyBits

/-!
# AccessPolicy.Rule

The rule at a path: bits to keep, bits to add, and how far the rule reaches.
-/

namespace AccessPolicy

/-- How far a rule reaches. -/
inductive RuleKind where
  /-- The path and everything below it. -/
  | scope
  /-- The path alone. -/
  | exact
  deriving DecidableEq, Repr

instance : Inhabited RuleKind := ⟨.scope⟩

/-- The name of a kind of rule. -/
def RuleKind.name : RuleKind → String
  | .scope => "scope"
  | .exact => "exact"

/-- A rule: it keeps the inherited bits of `mask` and adds those of `policy`. -/
structure Rule where
  mask : PolicyBits
  policy : PolicyBits
  kind : RuleKind
  deriving DecidableEq, Repr

namespace Rule

/-- The value that a rule leaves of an inherited one. -/
def apply (rule : Rule) (inherited : PolicyBits) : PolicyBits :=
  inherited.combine rule.mask rule.policy

@[simp] theorem bit_apply (rule : Rule) (inherited : PolicyBits) (i : Nat) :
    (rule.apply inherited).bit i =
      ((inherited.bit i && rule.mask.bit i) || rule.policy.bit i) := by
  simp [apply]

end Rule

end AccessPolicy
