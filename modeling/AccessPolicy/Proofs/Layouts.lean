import AccessPolicy.Decision
import Mathlib.Algebra.Group.Nat.Defs
import Mathlib.Order.Basic

/-!
# AccessPolicy.Proofs.Layouts

The fixed layouts: counters of 48 bytes and frames of eight.

What is written is told by the place of every byte and bit, so that writing and reading
cannot agree on another order.  Bytes that are read were written that way, and all others are
refused: for their number first, then for the first field that has a wrong value.

* `getElem?_littleEndian`, `Counters.getElem?_toBytes` — the bytes of numbers by their places;
* `Counters.exists_toBytes_eq` — 48 bytes are the layout of some counters;
* `Counters.layout_bijective` — counters and 48 bytes are the same thing;
* `Decision.ofFrame_eq_ok` — what is read of a frame is what is written in it;
* `Decision.frames_exact` — which frames are read, and which are refused for what.
-/

namespace AccessPolicy

/-! ## Numbers -/

/-- The bytes of a number, from the least significant one on. -/
theorem getElem?_littleEndian {count j : Nat} (h : j < count) (n : Nat) :
    (littleEndian count n)[j]? = some (UInt8.ofNat (n / 256 ^ j % 256)) := by
  induction count generalizing n j with
  | zero => exact absurd h (Nat.not_lt_zero j)
  | succ count ih =>
      cases j with
      | zero => simp [littleEndian]
      | succ j =>
          rw [littleEndian, List.getElem?_cons_succ, ih (Nat.lt_of_succ_lt_succ h),
            Nat.div_div_eq_div_mul, Nat.pow_succ']

/-! ## Counters -/

namespace Counters

/-- Numbers of eight bytes each stand one behind the other. -/
theorem getElem?_flatMap_littleEndian (ns : List UInt64) {j : Nat} (h : j < 8) (i : Nat) :
    (ns.flatMap fun n => littleEndian 8 n.toNat)[8 * i + j]? =
      ns[i]?.map fun n => UInt8.ofNat (n.toNat / 256 ^ j % 256) := by
  induction ns generalizing i with
  | nil => rfl
  | cons n ns ih =>
      have hlength : (littleEndian 8 n.toNat).length = 8 := length_littleEndian 8 n.toNat
      rw [List.flatMap_cons]
      cases i with
      | zero =>
          rw [Nat.mul_zero, Nat.zero_add, List.getElem?_append_left (by omega),
            getElem?_littleEndian h]
          rfl
      | succ i =>
          have hplace : 8 * (i + 1) + j - 8 = 8 * i + j := by omega
          rw [List.getElem?_append_right (by omega), hlength, hplace, ih,
            List.getElem?_cons_succ]

/-- Each byte of the layout, by the number to which it belongs and its place in it. -/
theorem getElem?_toBytes (c : Counters) {j : Nat} (h : j < 8) (i : Nat) :
    c.toBytes[8 * i + j]? = c.numbers[i]?.map fun n => UInt8.ofNat (n.toNat / 256 ^ j % 256) :=
  getElem?_flatMap_littleEndian c.numbers h i

/-- A number is written as the bytes from which it was read. -/
theorem littleEndian_numberAt {bs : List UInt8} {i : Nat} (h : 8 * (i + 1) ≤ bs.length) :
    littleEndian 8 (numberAt bs i).toNat = (bs.drop (8 * i)).take 8 := by
  have hlength : ((bs.drop (8 * i)).take 8).length = 8 := by
    rw [List.length_take, List.length_drop]
    omega
  have hlt := ofLittleEndian_lt ((bs.drop (8 * i)).take 8)
  have hwritten := littleEndian_ofLittleEndian ((bs.drop (8 * i)).take 8)
  rw [hlength] at hlt hwritten
  rw [numberAt, UInt64.toNat_ofNat', Nat.mod_eq_of_lt hlt, hwritten]

/-- Numbers that are read one after the other are written as the bytes that were read. -/
theorem flatMap_numberAt {bs : List UInt8} {count : Nat} (h : 8 * count ≤ bs.length) :
    ((List.range count).map (numberAt bs)).flatMap (fun n => littleEndian 8 n.toNat) =
      bs.take (8 * count) := by
  induction count with
  | zero => rfl
  | succ count ih =>
      rw [List.range_succ, List.map_append, List.flatMap_append, ih (by omega), Nat.mul_succ,
        List.take_add, ← littleEndian_numberAt h]
      simp

/-- Every 48 bytes are the layout of some counters. -/
theorem exists_toBytes_eq {bs : List UInt8} (h : bs.length = 48) :
    ∃ c, ofBytes bs = .ok c ∧ c.toBytes = bs := by
  have hall : 8 * 6 ≤ bs.length := by omega
  refine ⟨_, by rw [ofBytes, if_neg (by simp [byteLength, h])], ?_⟩
  calc _ = ((List.range 6).map (numberAt bs)).flatMap (fun n => littleEndian 8 n.toNat) := rfl
    _ = bs.take (8 * 6) := flatMap_numberAt hall
    _ = bs := List.take_of_length_le (by omega)

/-- **Counters**: bytes are refused iff they are not 48, with both numbers; all others are read
as the counters whose layout they are, and counters are read back from their layout.  The layout
has the operations and the bytes of reads, of writes and of all else, in this order, eight bytes
for each, of which the least significant stands first. -/
theorem layout_bijective :
    (∀ bs : List UInt8,
      (ofBytes bs = .error (.length 48 bs.length) ↔ bs.length ≠ 48) ∧
      (bs.length = 48 → ∃ c, ofBytes bs = .ok c ∧ c.toBytes = bs)) ∧
    (∀ c : Counters, ofBytes c.toBytes = .ok c) ∧
    ∀ (c : Counters) (i : Nat) (n : UInt64),
      [c.read.operations, c.read.bytes, c.write.operations, c.write.bytes, c.other.operations,
        c.other.bytes][i]? = some n →
      ∀ j < 8, c.toBytes[8 * i + j]? = some (UInt8.ofNat (n.toNat / 256 ^ j % 256)) := by
  refine ⟨fun bs => ⟨⟨fun herror hlength => ?_, fun hlength => ?_⟩, exists_toBytes_eq⟩,
    ofBytes_toBytes, fun c i n hn j hj => ?_⟩
  · obtain ⟨c, hc, -⟩ := exists_toBytes_eq hlength
    rw [hc] at herror
    cases herror
  · exact if_pos hlength
  · have hnumber : c.numbers[i]? = some n := hn
    rw [getElem?_toBytes c hj, hnumber, Option.map_some]

/-- Counters whose numbers have different bytes. -/
def sampleCounters : Counters :=
  ⟨⟨0x0102030405060708, 1⟩, ⟨2, 0xFF00⟩, ⟨18446744073709551615, 3⟩⟩

/-- The bytes of the first number stand in the opposite order, the fourth number has its second
byte set, and the layout without its last byte is refused. -/
theorem layout_bijective_sample :
    sampleCounters.toBytes.take 8 = [8, 7, 6, 5, 4, 3, 2, 1] ∧
      sampleCounters.toBytes[8 * 3 + 1]? = some 0xFF ∧
      ofBytes sampleCounters.toBytes = .ok sampleCounters ∧
      (∃ c, ofBytes (List.replicate 48 7) = .ok c ∧ c.toBytes = List.replicate 48 7) ∧
      ofBytes (sampleCounters.toBytes.take 47) = .error (.length 48 47) := by
  obtain ⟨hbytes, hread, hplaces⟩ := layout_bijective
  have hshort : (sampleCounters.toBytes.take 47).length ≠ 48 := by decide
  exact ⟨by decide, hplaces sampleCounters 3 0xFF00 rfl 1 (by decide), hread sampleCounters,
    (hbytes (List.replicate 48 7)).2 (by decide), (hbytes _).1.2 hshort⟩

end Counters

/-! ## Frames -/

/-- The first codes are those of reasons, and no other number is one. -/
theorem Reason.ofCode?_eq_none_iff {code : Nat} : ofCode? code = none ↔ 5 < code := by
  rw [ofCode?, List.getElem?_eq_none_iff]
  exact Iff.rfl

theorem Reason.code_of_ofCode? {code : Nat} {reason : Reason} (h : ofCode? code = some reason) :
    reason.code = code := by
  obtain ⟨hlt, -⟩ := List.getElem?_eq_some_iff.1 h
  have hall : ∀ n < 6, ∀ reason, ofCode? n = some reason → reason.code = n := by decide
  exact hall code hlt reason h

namespace Decision

/-- A byte has a bit that is none of the three flags. -/
def StrayFlag (b : UInt8) : Prop := ∃ i, 3 ≤ i ∧ b.toNat.testBit i = true

theorem strayFlag_iff {b : UInt8} : StrayFlag b ↔ 8 ≤ b := by
  rw [UInt8.le_iff_toNat_le, StrayFlag]
  constructor
  · rintro ⟨i, hi, hbit⟩
    have hpow : 2 ^ 3 ≤ 2 ^ i := Nat.pow_le_pow_right Nat.two_pos hi
    exact Nat.le_trans hpow (Nat.ge_two_pow_of_testBit hbit)
  · intro hle
    have hpow : 2 ^ 3 ≤ b.toNat := hle
    exact Nat.exists_ge_and_testBit_of_ge_two_pow hpow

/-- Without other bits, flags are their sum. -/
theorem sum_testBit {b : UInt8} (h : ¬ 8 ≤ b) :
    (b.toNat.testBit 0).toNat + 2 * (b.toNat.testBit 1).toNat + 4 * (b.toNat.testBit 2).toNat =
      b.toNat := by
  have hall : ∀ n < 8,
      (n.testBit 0).toNat + 2 * (n.testBit 1).toNat + 4 * (n.testBit 2).toNat = n := by decide
  rw [UInt8.le_iff_toNat_le] at h
  exact hall b.toNat (Nat.lt_of_not_le h)

theorem ofFrame_of_length_ne {f : List UInt8} (h : f.length ≠ 8) :
    ofFrame f = .error (.length 8 f.length) := by
  unfold ofFrame
  split
  · exact absurd rfl h
  · rfl

variable {flags reason low high a b c e : UInt8}

theorem ofFrame_of_flags (h : 8 ≤ flags) :
    ofFrame [flags, reason, low, high, a, b, c, e] = .error (.invalidField "flags" flags) := by
  rw [ofFrame, if_pos h]

theorem ofFrame_of_reason (hflags : ¬ 8 ≤ flags) (h : 5 < reason.toNat) :
    ofFrame [flags, reason, low, high, a, b, c, e] = .error (.invalidField "reason" reason) := by
  rw [ofFrame, if_neg hflags, Reason.ofCode?_eq_none_iff.2 h]

/-- What is read of a frame is written as the frame, with zeros at its end. -/
theorem ofFrame_eq_ok (hflags : ¬ 8 ≤ flags) (hreason : ¬ 5 < reason.toNat) :
    ∃ d, ofFrame [flags, reason, low, high, a, b, c, e] = .ok d ∧
      d.frame = [flags, reason, low, high, 0, 0, 0, 0] := by
  obtain ⟨why, hwhy⟩ := Option.ne_none_iff_exists'.1 (mt Reason.ofCode?_eq_none_iff.1 hreason)
  have hdepth : ofLittleEndian [low, high] % 2 ^ 16 = ofLittleEndian [low, high] := by
    have hlow := low.toNat_lt
    have hhigh := high.toNat_lt
    simp only [ofLittleEndian]
    omega
  have hbytes : littleEndian 2 (ofLittleEndian [low, high]) = [low, high] :=
    littleEndian_ofLittleEndian [low, high]
  refine ⟨_, by rw [ofFrame, if_neg hflags, hwhy], ?_⟩
  simp only [frame, Decision.flags, sum_testBit hflags, Reason.code_of_ofCode? hwhy,
    UInt8.ofNat_toNat, UInt16.toNat_ofNat', hdepth, hbytes]
  rfl

/-- Bytes in which every field of a decision has its place: a bit each for the flags, the code of
the reason, and the depth with its low byte first. -/
def PlacedIn (d : Decision) (f : List UInt8) : Prop :=
  ∃ flags : UInt8,
    f = [flags, UInt8.ofNat d.reason.code, UInt8.ofNat (d.matchedDepth.toNat % 256),
      UInt8.ofNat (d.matchedDepth.toNat / 256), 0, 0, 0, 0] ∧
    flags.toNat.testBit 0 = d.allowed ∧ flags.toNat.testBit 1 = d.reported ∧
    flags.toNat.testBit 2 = d.unexpected ∧ ¬ StrayFlag flags

theorem placedIn_frame (d : Decision) : d.PlacedIn d.frame := by
  obtain ⟨hlt, hallowed, hreported, hunexpected⟩ :=
    testBit_flags d.allowed d.reported d.unexpected
  have hhigh : d.matchedDepth.toNat / 256 % 256 = d.matchedDepth.toNat / 256 := by
    have hdepth := d.matchedDepth.toNat_lt
    omega
  refine ⟨_, ?_, hallowed, hreported, hunexpected, mt strayFlag_iff.1 hlt⟩
  simp only [frame, flags, littleEndian, hhigh]
  rfl

/-- **Frames**: decisions are read back from their frames, in which every field has its place.
Bytes that are not eight are refused for their number; others, if a bit stands beside the three
flags, for the byte in which it stands; others, if the second byte is no code, for that byte; and
all others are read as a decision whose frame they are, but for the last four bytes, which are
zeros in it. -/
theorem frames_exact :
    (∀ d : Decision, ofFrame d.frame = .ok d ∧ d.PlacedIn d.frame) ∧
    ∀ f : List UInt8,
      (ofFrame f = .error (.length 8 f.length) ↔ f.length ≠ 8) ∧
      ∀ h : f.length = 8,
        (ofFrame f = .error (.invalidField "flags" f[0]) ↔ StrayFlag f[0]) ∧
        (¬ StrayFlag f[0] →
          (ofFrame f = .error (.invalidField "reason" f[1]) ↔ 5 < f[1].toNat) ∧
          (f[1].toNat ≤ 5 → ∃ d, ofFrame f = .ok d ∧ d.frame = f.take 4 ++ [0, 0, 0, 0])) := by
  refine ⟨fun d => ⟨ofFrame_frame d, placedIn_frame d⟩, fun f => ?_⟩
  by_cases hlength : f.length = 8
  · obtain ⟨flags, reason, low, high, a, b, c, e, rfl⟩ : ∃ flags reason low high a b c e,
        f = [flags, reason, low, high, a, b, c, e] := by
      match f, hlength with
      | [flags, reason, low, high, a, b, c, e], _ =>
          exact ⟨flags, reason, low, high, a, b, c, e, rfl⟩
    simp only [List.getElem_cons_zero, List.getElem_cons_succ, strayFlag_iff]
    by_cases hflags : 8 ≤ flags
    · simp [ofFrame_of_flags hflags, hflags]
    by_cases hreason : 5 < reason.toNat
    · simp [ofFrame_of_reason hflags hreason, hflags, hreason]
    · obtain ⟨d, hd, hframe⟩ := @ofFrame_eq_ok _ _ low high a b c e hflags hreason
      simp [hd, hframe, hflags, hreason]
  · simp [ofFrame_of_length_ne hlength, hlength]

/-- A wrong flag is refused before a wrong reason, and a frame whose last bytes are no zeros is
read. -/
theorem frames_exact_sample :
    StrayFlag 0x87 ∧
      ofFrame [0x87, 9, 0, 0, 0, 0, 0, 0] = .error (.invalidField "flags" 0x87) ∧
      ofFrame [6, 9, 0, 0, 0, 0, 0, 0] = .error (.invalidField "reason" 9) ∧
      (∃ d, ofFrame [6, 3, 2, 1, 7, 7, 7, 7] = .ok d ∧ d.frame = [6, 3, 2, 1, 0, 0, 0, 0]) ∧
      ofFrame [0, 0, 0, 0] = .error (.length 8 4) := by
  obtain ⟨-, hall⟩ := frames_exact
  have hstray : StrayFlag 0x87 := ⟨7, by decide, by decide⟩
  have hplain : ¬ StrayFlag 6 := mt strayFlag_iff.1 (by decide)
  refine ⟨hstray, ((hall _).2 rfl).1.2 hstray, (((hall _).2 rfl).2 hplain).1.2 (by decide),
    (((hall [6, 3, 2, 1, 7, 7, 7, 7]).2 rfl).2 hplain).2 (by decide), (hall _).1.2 (by decide)⟩

end Decision

end AccessPolicy
