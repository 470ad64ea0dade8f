import AccessPolicy.Accounting.Counters

/-!
# AccessPolicy.Accounting.Layout

Counters as 48 bytes: six numbers of eight bytes each, the least significant
byte first.  They are the operations and the bytes of reads, of writes and of
all else.

* `ofLittleEndian_littleEndian`, `littleEndian_ofLittleEndian` — numbers and their
  bytes determine one another;
* `ofBytes_toBytes` — counters are read back from their layout.
-/

namespace AccessPolicy

/-! ## Refusals -/

/-- Why bytes are no record of a fixed layout. -/
inductive LayoutError where
  /-- There are too few or too many bytes. -/
  | length (expected actual : Nat)
  /-- A byte has a value that its field does not know. -/
  | invalidField (field : String) (value : UInt8)
  deriving DecidableEq, Repr

/-- The reason in words. -/
def LayoutError.message : LayoutError → String
  | .length expected actual =>
      "expected " ++ toString expected ++ " bytes, got " ++ toString actual
  | .invalidField field value => "invalid " ++ field ++ " value " ++ toString value.toNat

/-! ## Numbers of eight bytes -/

/-- The lowest `count` bytes of a number, the least significant first. -/
def littleEndian : (count : Nat) → Nat → List UInt8
  | 0, _ => []
  | count + 1, n => UInt8.ofNat (n % 256) :: littleEndian count (n / 256)

/-- The number that bytes stand for, the least significant first. -/
def ofLittleEndian : List UInt8 → Nat
  | [] => 0
  | b :: bs => b.toNat + 256 * ofLittleEndian bs

@[simp] theorem length_littleEndian (count n : Nat) : (littleEndian count n).length = count := by
  induction count generalizing n with
  | zero => rfl
  | succ count ih => simp [littleEndian, ih]

theorem ofLittleEndian_lt (bs : List UInt8) : ofLittleEndian bs < Nat.pow 256 bs.length := by
  induction bs with
  | nil => exact Nat.one_pos
  | cons b bs ih =>
      have hb : b.toNat < 256 := b.toNat_lt
      have hpow : Nat.pow 256 (bs.length + 1) = Nat.pow 256 bs.length * 256 := rfl
      rw [ofLittleEndian, List.length_cons, hpow]
      omega

theorem ofLittleEndian_littleEndian (count n : Nat) :
    ofLittleEndian (littleEndian count n) = n % Nat.pow 256 count := by
  induction count generalizing n with
  | zero => exact (Nat.mod_one n).symm
  | succ count ih =>
      have h256 : (UInt8.ofNat (n % 256)).toNat = n % 256 := by simp
      have hpow : Nat.pow 256 (count + 1) = 256 * Nat.pow 256 count := Nat.mul_comm ..
      rw [littleEndian, ofLittleEndian, ih, h256, hpow, Nat.mod_mul]

theorem littleEndian_ofLittleEndian (bs : List UInt8) :
    littleEndian bs.length (ofLittleEndian bs) = bs := by
  induction bs with
  | nil => rfl
  | cons b bs ih =>
      have hb : b.toNat < 256 := b.toNat_lt
      have hlow : (b.toNat + 256 * ofLittleEndian bs) % 256 = b.toNat := by omega
      have hhigh : (b.toNat + 256 * ofLittleEndian bs) / 256 = ofLittleEndian bs := by omega
      simp [littleEndian, ofLittleEndian, hlow, hhigh, ih]

/-! ## Counters -/

namespace Counters

/-- Number of bytes of the layout. -/
def byteLength : Nat := 48

/-- The six numbers of the layout. -/
def numbers (c : Counters) : List UInt64 :=
  [c.read.operations, c.read.bytes, c.write.operations, c.write.bytes,
    c.other.operations, c.other.bytes]

/-- The layout of counters. -/
def toBytes (c : Counters) : List UInt8 := c.numbers.flatMap fun n => littleEndian 8 n.toNat

/-- The number that starts at byte `8 * index`. -/
def numberAt (bs : List UInt8) (index : Nat) : UInt64 :=
  UInt64.ofNat (ofLittleEndian ((bs.drop (8 * index)).take 8))

/-- The counters that 48 bytes are the layout of. -/
def ofBytes (bs : List UInt8) : Except LayoutError Counters :=
  if bs.length ≠ byteLength then .error (.length byteLength bs.length)
  else
    .ok ⟨⟨numberAt bs 0, numberAt bs 1⟩, ⟨numberAt bs 2, numberAt bs 3⟩,
      ⟨numberAt bs 4, numberAt bs 5⟩⟩

@[simp] theorem length_toBytes (c : Counters) : c.toBytes.length = byteLength := by
  simp [toBytes, numbers, byteLength]

/-- Each of several numbers is found at its place. -/
theorem numberAt_flatMap {ns : List UInt64} {index : Nat} {n : UInt64} (h : ns[index]? = some n) :
    numberAt (ns.flatMap fun n => littleEndian 8 n.toNat) index = n := by
  induction ns generalizing index with
  | nil => simp at h
  | cons m ns ih =>
      have hlength : (littleEndian 8 m.toNat).length = 8 := length_littleEndian ..
      cases index with
      | zero =>
          obtain rfl : m = n := by simpa using h
          have hlt : m.toNat < Nat.pow 256 8 := m.toNat_lt
          simp only [List.flatMap_cons, numberAt, Nat.mul_zero, List.drop_zero]
          rw [List.take_left' hlength, ofLittleEndian_littleEndian, Nat.mod_eq_of_lt hlt,
            UInt64.ofNat_toNat]
      | succ index =>
          have hplace : 8 * (index + 1) = (littleEndian 8 m.toNat).length + 8 * index := by omega
          rw [← ih (by simpa using h)]
          simp only [List.flatMap_cons, numberAt]
          rw [hplace, List.drop_length_add_append]

/-- Counters are read back from their layout. -/
theorem ofBytes_toBytes (c : Counters) : ofBytes c.toBytes = .ok c := by
  have h (index : Nat) (n : UInt64) : c.numbers[index]? = some n → numberAt c.toBytes index = n :=
    numberAt_flatMap
  rw [ofBytes, if_neg (by simp), h 0 _ rfl, h 1 _ rfl, h 2 _ rfl, h 3 _ rfl, h 4 _ rfl, h 5 _ rfl]

end Counters

end AccessPolicy
