import AccessPolicy.Json.Flaw
import AccessPolicy.Text.Shortest

/-!
# AccessPolicy.Json.Number

Numbers in documents.

A numeral has an optional minus sign, a whole part without superfluous zeros, an
optional fraction and an optional exponent.  Without fraction and exponent it is
an integer, if it is one of 64 bits and not the negative zero.  Every other
numeral is a floating-point number:

1. digits are taken into a significand for as long as it fits into 64 bits;
   whole digits after that count as powers of ten, digits of the fraction after
   that do not count;
2. the significand is multiplied or divided by the power of ten that remains;
3. a number beyond the greatest finite one has no value.
-/

namespace AccessPolicy.Json

/-! ## Values -/

/-- A number. -/
inductive Number where
  | integer (n : Int)
  | float (x : Float)
  deriving Repr

/-- The text of a number. -/
def Number.text : Number → String
  | .integer n => toString n
  | .float x => Text.floatText x

/-! ## Numerals -/

/-- The parts of a numeral. -/
structure Numeral where
  negative : Bool
  whole : List Char
  fraction : List Char
  /-- The sign of the exponent and its digits. -/
  exponent : Option (Bool × List Char)
  deriving DecidableEq, Repr

/-- The value of a decimal digit. -/
def digitValue (c : Char) : Nat := c.toNat - 0x30

namespace Numeral

/-- The greatest significand. -/
def maxSignificand : Nat := UInt64.size - 1

/-- Take digits into a significand while it fits; the number of those taken, and
the digits that are left. -/
def take (significand : Nat) : List Char → Nat × Nat × List Char
  | [] => (significand, 0, [])
  | c :: cs =>
      let next := significand * 10 + digitValue c
      if maxSignificand < next then (significand, 0, c :: cs)
      else
        let (s, count, rest) := take next cs
        (s, count + 1, rest)

/-- The value of the digits of an exponent; none beyond 31 bits. -/
def exponentValue? (ds : List Char) : Option Nat :=
  let n := ds.foldl (fun n c => n * 10 + digitValue c) 0
  if n < 0x80000000 then some n else none

/-- Multiply by a power of ten; none if the product is beyond all finite numbers. -/
def scale? (x : Float) (power : Int) : Option Float :=
  if power.natAbs ≤ 308 then
    let factor := Float.ofScientific 1 false power.natAbs
    if 0 ≤ power then
      let y := x * factor
      if y.isInf then none else some y
    else some (x / factor)
  else if x == 0 then some x
  else if 0 ≤ power then none
  else scale? (x / Float.ofScientific 1 false 308) (power + 308)
termination_by power.natAbs
decreasing_by omega

/-- A significand times a power of ten; none if it is beyond all finite numbers. -/
def float? (significand : Nat) (power : Int) (exponent : Option (Bool × List Char)) :
    Option Float :=
  let x := (UInt64.ofNat significand).toFloat
  match exponent with
  | none => scale? x power
  | some (negative, ds) =>
      match exponentValue? ds with
      | some e => scale? x (if negative then power - e else power + e)
      | none => if significand = 0 || negative then some 0 else none

/-- The value of a numeral, if it has one. -/
def value? (n : Numeral) : Option Number :=
  let (significand, _, beyond) := take 0 n.whole
  if n.fraction.isEmpty && n.exponent.isNone && beyond.isEmpty &&
      !(n.negative && (significand = 0 || 0x8000000000000000 < significand)) then
    some (.integer (if n.negative then -significand else significand))
  else
    let (significand, places, _) := take significand n.fraction
    (float? significand (beyond.length - places) n.exponent).map fun x =>
      .float (if n.negative then -x else x)

end Numeral

/-! ## Reading -/

/-- Cut the digits off the front of a text. -/
def spanDigits (cs : List Char) : List Char × List Char :=
  (cs.takeWhile Char.isDigit, cs.dropWhile Char.isDigit)

/-- Read digits of which there has to be at least one. -/
def readDigits (cs : List Char) : Except Flaw (List Char × List Char) :=
  let (ds, rest) := spanDigits cs
  if ds.isEmpty then .error (.atEnd rest) else .ok (ds, rest)

/-- Read a whole part. -/
def readWhole (cs : List Char) : Except Flaw (List Char × List Char) := do
  let (ds, rest) ← readDigits cs
  if ds.head? = some '0' && 1 < ds.length then throw .malformed
  return (ds, rest)

/-- Read a fraction, if there is one. -/
def readFraction : List Char → Except Flaw (List Char × List Char)
  | '.' :: cs => readDigits cs
  | cs => .ok ([], cs)

/-- Read the sign of an exponent, if there is one. -/
def readSign : List Char → Bool × List Char
  | '+' :: cs => (false, cs)
  | '-' :: cs => (true, cs)
  | cs => (false, cs)

/-- Read an exponent, if there is one. -/
def readExponent : List Char → Except Flaw (Option (Bool × List Char) × List Char)
  | c :: cs =>
      if c = 'e' || c = 'E' then do
        let (negative, cs) := readSign cs
        let (ds, rest) ← readDigits cs
        return (some (negative, ds), rest)
      else .ok (none, c :: cs)
  | [] => .ok (none, [])

/-- Read the parts of a numeral after its minus sign. -/
def readParts (negative : Bool) (cs : List Char) : Except Flaw (Numeral × List Char) := do
  let (whole, cs) ← readWhole cs
  let (fraction, cs) ← readFraction cs
  let (exponent, cs) ← readExponent cs
  return (⟨negative, whole, fraction, exponent⟩, cs)

/-- Read the parts of a numeral. -/
def readNumeral : List Char → Except Flaw (Numeral × List Char)
  | '-' :: cs => readParts true cs
  | cs => readParts false cs

theorem length_readDigits_lt {cs ds rest : List Char} (h : readDigits cs = .ok (ds, rest)) :
    rest.length < cs.length := by
  have hcut := congrArg List.length (List.takeWhile_append_dropWhile (p := Char.isDigit) (l := cs))
  simp only [readDigits, spanDigits] at h
  cases hne : cs.takeWhile Char.isDigit with
  | nil => simp [hne] at h
  | cons d ds' =>
      simp only [hne, List.isEmpty_cons, Bool.false_eq_true, if_false, Except.ok.injEq,
        Prod.mk.injEq] at h
      obtain ⟨rfl, rfl⟩ := h
      simp only [hne, List.length_append, List.length_cons] at hcut
      omega

theorem length_readWhole_lt {cs ds rest : List Char} (h : readWhole cs = .ok (ds, rest)) :
    rest.length < cs.length := by
  unfold readWhole at h
  cases hd : readDigits cs with
  | error e => simp [hd, bind, Except.bind] at h
  | ok r =>
      obtain ⟨ds', rest'⟩ := r
      simp only [hd, bind, Except.bind] at h
      split at h
      · simp [throw, throwThe, MonadExceptOf.throw] at h
      · simp only [pure, Except.pure, Except.ok.injEq, Prod.mk.injEq] at h
        exact h.2 ▸ length_readDigits_lt hd

theorem length_readFraction_le {cs ds rest : List Char} (h : readFraction cs = .ok (ds, rest)) :
    rest.length ≤ cs.length := by
  unfold readFraction at h
  split at h
  · have := length_readDigits_lt h
    simp only [List.length_cons]
    omega
  · simp only [Except.ok.injEq, Prod.mk.injEq] at h
    simp [h.2]

theorem length_readSign_le (cs : List Char) : (readSign cs).2.length ≤ cs.length := by
  unfold readSign
  split <;> simp

theorem length_readExponent_le {cs rest : List Char} {e : Option (Bool × List Char)}
    (h : readExponent cs = .ok (e, rest)) : rest.length ≤ cs.length := by
  unfold readExponent at h
  split at h
  · rename_i c cs
    split at h
    · have hsign := length_readSign_le cs
      cases hd : readDigits (readSign cs).2 with
      | error e => simp [hd, bind, Except.bind] at h
      | ok r =>
          obtain ⟨ds, rest'⟩ := r
          simp only [hd, bind, Except.bind, pure, Except.pure, Except.ok.injEq,
            Prod.mk.injEq] at h
          have := length_readDigits_lt hd
          simp only [List.length_cons, ← h.2]
          omega
    · simp only [Except.ok.injEq, Prod.mk.injEq] at h
      simp [← h.2]
  · simp only [Except.ok.injEq, Prod.mk.injEq] at h
    simp [← h.2]

theorem length_readParts_lt {negative : Bool} {cs rest : List Char} {n : Numeral}
    (h : readParts negative cs = .ok (n, rest)) : rest.length < cs.length := by
  unfold readParts at h
  cases hw : readWhole cs with
  | error e => simp [hw, bind, Except.bind] at h
  | ok r =>
      obtain ⟨whole, cs₁⟩ := r
      cases hf : readFraction cs₁ with
      | error e => simp [hw, hf, bind, Except.bind] at h
      | ok r =>
          obtain ⟨fraction, cs₂⟩ := r
          cases he : readExponent cs₂ with
          | error e => simp [hw, hf, he, bind, Except.bind] at h
          | ok r =>
              obtain ⟨exponent, cs₃⟩ := r
              simp only [hw, hf, he, bind, Except.bind, pure, Except.pure, Except.ok.injEq,
                Prod.mk.injEq] at h
              have := length_readWhole_lt hw
              have := length_readFraction_le hf
              have := length_readExponent_le he
              rw [← h.2]
              omega

/-- A numeral takes up at least one character. -/
theorem length_readNumeral_lt {cs rest : List Char} {n : Numeral}
    (h : readNumeral cs = .ok (n, rest)) : rest.length < cs.length := by
  unfold readNumeral at h
  split at h
  · have := length_readParts_lt h
    simp only [List.length_cons]
    omega
  · exact length_readParts_lt h

end AccessPolicy.Json
