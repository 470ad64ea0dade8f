/-!
# AccessPolicy.PolicyBits

The permission and report bits of a rule, a set of up to 32 bits of which the
lowest eight have a meaning.

The same type holds a rule's mask (the inherited bits to keep), a rule's policy
(the bits to add) and the effective value that rules leave at a path:

```
combine inherited mask policy = (inherited ∩ mask) ∪ policy
```

* `bit_combine` — a combined value has a bit iff the policy adds it, or it was
  inherited and the mask keeps it;
* `contains_iff` — containment is containment bit by bit;
* `covers_iff` — a value covers what it contains, unless the veto `deny` is set.
-/

namespace AccessPolicy

/-- A set of permission and report bits. -/
structure PolicyBits where
  word : BitVec 32
  deriving DecidableEq, Repr

namespace PolicyBits

/-! ## Sets of bits -/

/-- No bit at all. -/
def empty : PolicyBits := ⟨0⟩

instance : EmptyCollection PolicyBits := ⟨empty⟩

instance : Inhabited PolicyBits := ⟨∅⟩

instance : Union PolicyBits := ⟨fun a b => ⟨a.word ||| b.word⟩⟩

instance : Inter PolicyBits := ⟨fun a b => ⟨a.word &&& b.word⟩⟩

instance : SDiff PolicyBits := ⟨fun a b => ⟨a.word &&& ~~~b.word⟩⟩

/-- Whether bit `i` is set. -/
def bit (b : PolicyBits) (i : Nat) : Bool := b.word.getLsbD i

/-- Whether every bit of `required` is set in `b`. -/
def contains (b required : PolicyBits) : Bool := b ∩ required = required

/-- Whether a bit of `other` is set in `b`. -/
def meets (b other : PolicyBits) : Bool := b ∩ other ≠ ∅

@[simp] theorem bit_empty (i : Nat) : bit ∅ i = false := BitVec.getLsbD_zero

@[simp] theorem bit_union (a b : PolicyBits) (i : Nat) : (a ∪ b).bit i = (a.bit i || b.bit i) :=
  BitVec.getLsbD_or

@[simp] theorem bit_inter (a b : PolicyBits) (i : Nat) : (a ∩ b).bit i = (a.bit i && b.bit i) :=
  BitVec.getLsbD_and

@[simp] theorem bit_sdiff (a b : PolicyBits) (i : Nat) : (a \ b).bit i = (a.bit i && !b.bit i) := by
  have hbits : (a \ b).bit i = (a.word &&& ~~~b.word).getLsbD i := rfl
  rw [hbits, BitVec.getLsbD_and, BitVec.getLsbD_not]
  cases h : a.word.getLsbD i with
  | false => simp [bit, h]
  | true => simp [bit, h, BitVec.lt_of_getLsbD h]

/-- Sets with the same bits are equal. -/
theorem ext_bit {a b : PolicyBits} (h : ∀ i, a.bit i = b.bit i) : a = b := by
  cases a; cases b
  exact congrArg PolicyBits.mk (BitVec.eq_of_getLsbD_eq fun i _ => h i)

theorem contains_iff {b required : PolicyBits} :
    b.contains required = true ↔ ∀ i, required.bit i = true → b.bit i = true := by
  simp only [contains, decide_eq_true_eq]
  constructor
  · intro h i hi
    rw [← h, bit_inter] at hi
    exact (Bool.and_eq_true_iff.1 hi).1
  · intro h
    refine ext_bit fun i => ?_
    have := h i
    cases hr : required.bit i <;> simp_all

@[simp] theorem contains_self (b : PolicyBits) : b.contains b = true := contains_iff.2 fun _ h => h

theorem contains_trans {a b c : PolicyBits} (h : a.contains b = true) (h' : b.contains c = true) :
    a.contains c = true :=
  contains_iff.2 fun i hi => contains_iff.1 h i (contains_iff.1 h' i hi)

@[simp] theorem contains_empty (b : PolicyBits) : b.contains ∅ = true :=
  contains_iff.2 fun i h => by simp at h

/-- Two sets meet iff they have a bit in common. -/
theorem meets_iff {b other : PolicyBits} :
    b.meets other = true ↔ ∃ i, b.bit i = true ∧ other.bit i = true := by
  simp only [meets, decide_eq_true_eq]
  constructor
  · intro hne
    refine Classical.byContradiction fun hnone => hne (ext_bit fun i => ?_)
    cases hb : b.bit i <;> cases ho : other.bit i <;> simp_all
  · rintro ⟨i, hb, ho⟩ hnone
    have hbit : (b ∩ other).bit i = false := by rw [hnone, bit_empty]
    simp [hb, ho] at hbit

/-! ## The vocabulary -/

/-- Reading file contents. -/
def allowRead : PolicyBits := ⟨0x01⟩

/-- Writing, deleting or renaming. -/
def allowWrite : PolicyBits := ⟨0x02⟩

/-- Listing the contents of a directory. -/
def allowEnumerate : PolicyBits := ⟨0x04⟩

/-- Creating directories. -/
def allowCreateDirectory : PolicyBits := ⟨0x08⟩

/-- Probing or reading a path at which there is nothing. -/
def allowReadIfNonexistent : PolicyBits := ⟨0x10⟩

/-- The veto: while it is set no access is covered. -/
def deny : PolicyBits := ⟨0x20⟩

/-- Every access is reported. -/
def reportAccess : PolicyBits := ⟨0x40⟩

/-- Every listing of a directory is reported. -/
def reportDirectoryEnumeration : PolicyBits := ⟨0x80⟩

/-- All permissions. -/
def allowAll : PolicyBits :=
  allowRead ∪ allowWrite ∪ allowEnumerate ∪ allowCreateDirectory ∪ allowReadIfNonexistent

/-- The mask that keeps no inherited bit, so that the rule starts afresh. -/
def maskAll : PolicyBits := ∅

/-- The mask that keeps every inherited bit. -/
def maskNone : PolicyBits := ⟨BitVec.allOnes 32⟩

theorem bit_maskNone {i : Nat} (h : i < 32) : maskNone.bit i = true := by
  simp [bit, maskNone, -BitVec.reduceAllOnes, h]

/-- A flag of one bit has this bit and no other. -/
theorem bit_flag {flag : PolicyBits} {n : Nat} (h : flag.word = BitVec.twoPow 32 n) (hn : n < 32)
    (i : Nat) : flag.bit i = decide (n = i) := by
  rw [bit, h, BitVec.getLsbD_twoPow]
  simp [hn]

/-- A set has a flag of one bit iff it has this bit. -/
theorem contains_flag_iff {b flag : PolicyBits} {n : Nat} (h : flag.word = BitVec.twoPow 32 n)
    (hn : n < 32) : b.contains flag = true ↔ b.bit n = true := by
  simp only [contains_iff, bit_flag h hn, decide_eq_true_eq, forall_eq']

/-- Only 32 bits can be set. -/
theorem lt_of_bit {b : PolicyBits} {i : Nat} (h : b.bit i = true) : i < 32 :=
  BitVec.lt_of_getLsbD h

@[simp] theorem inter_maskNone (b : PolicyBits) : b ∩ maskNone = b := by
  refine ext_bit fun i => ?_
  cases h : b.bit i
  · simp [h]
  · simp [h, bit_maskNone (lt_of_bit h)]

/-! ## Rules and requirements -/

/-- The value that a rule leaves of an inherited one: the mask takes bits away,
the policy adds bits. -/
def combine (inherited mask policy : PolicyBits) : PolicyBits := (inherited ∩ mask) ∪ policy

@[simp] theorem bit_combine (inherited mask policy : PolicyBits) (i : Nat) :
    (combine inherited mask policy).bit i = ((inherited.bit i && mask.bit i) || policy.bit i) := by
  simp [combine]

/-- A rule that keeps all and adds nothing changes nothing. -/
theorem combine_maskNone_empty (b : PolicyBits) : combine b maskNone ∅ = b :=
  ext_bit fun i => by rw [bit_combine, ← bit_inter, inter_maskNone, bit_empty, Bool.or_false]

/-- Whether what is required is granted and not vetoed. -/
def covers (b required : PolicyBits) : Bool := b.contains required && !b.contains deny

theorem covers_iff {b required : PolicyBits} :
    b.covers required = true ↔ b.contains required = true ∧ b.contains deny = false := by
  simp [covers]

/-- Whether everything is allowed and nothing reported, so that accesses need
not be followed at all. -/
def isUntracked (b : PolicyBits) : Bool :=
  b.contains allowAll && !b.contains deny && !b.meets (reportAccess ∪ reportDirectoryEnumeration)

end PolicyBits

end AccessPolicy
