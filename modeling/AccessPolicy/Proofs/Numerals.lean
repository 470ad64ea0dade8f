import AccessPolicy.Json.Number
import AccessPolicy.Text.Hexadecimal
import Mathlib.Data.Nat.Digits.Defs

/-!
# AccessPolicy.Proofs.Numerals

Numerals are read back as the numbers that they stand for.

A numeral is the numeral of its quotient by the base with one more digit, and both readers take
one digit after the other.

* `Text.readHex_hexNumeral` — hexadecimal numerals of any size;
* `Json.readNumeral_toDigits` — the decimal numeral of a natural number, up to the first
  character behind it that cannot belong to it;
* `Json.value?_natural` — it has that number for its value, if 64 bits hold it.
-/

namespace AccessPolicy

/-! ## Hexadecimal -/

namespace Text

theorem hexDigit?_digitChar {d : Nat} (h : d < 16) : hexDigit? (Nat.digitChar d) = some d := by
  have hall : ∀ d < 16, hexDigit? (Nat.digitChar d) = some d := by decide
  exact hall d h

theorem readHexFrom_hexNumeral (n : Nat) : readHexFrom 0 (hexNumeral n) = some n := by
  induction n using Nat.strong_induction_on with
  | _ n ih =>
      rw [hexNumeral]
      by_cases hn : n < 16
      · rw [Nat.toDigits_of_lt_base hn]
        simp [readHexFrom, hexDigit?_digitChar hn]
      · have hquotient := ih (n / 16) (by omega)
        rw [hexNumeral] at hquotient
        rw [Nat.toDigits_of_base_le (by decide) (Nat.le_of_not_lt hn), readHexFrom_append,
          hquotient]
        simp only [Option.bind_some, readHexFrom, hexDigit?_digitChar (Nat.mod_lt n (by decide)),
          Option.some.injEq]
        omega

/-- A hexadecimal numeral is read back. -/
theorem readHex_hexNumeral (n : Nat) : readHex (hexNumeral n) = some n := by
  have hread := readHexFrom_hexNumeral n
  cases h : hexNumeral n with
  | nil => exact absurd h Nat.toDigits_ne_nil
  | cons c cs => rwa [h] at hread

/-- The digits of a hexadecimal numeral. -/
theorem exists_digit_of_mem_hexNumeral {n : Nat} {c : Char} (h : c ∈ hexNumeral n) :
    ∃ d < 16, c = Nat.digitChar d := by
  induction n using Nat.strong_induction_on with
  | _ n ih =>
      rw [hexNumeral] at h
      by_cases hn : n < 16
      · rw [Nat.toDigits_of_lt_base hn, List.mem_singleton] at h
        exact ⟨n, hn, h⟩
      · rw [Nat.toDigits_of_base_le (by decide) (Nat.le_of_not_lt hn), List.mem_append,
          List.mem_singleton] at h
        cases h with
        | inl hquotient => exact ih (n / 16) (by omega) hquotient
        | inr hlast => exact ⟨n % 16, Nat.mod_lt n (by decide), hlast⟩

end Text

/-! ## Decimal -/

namespace Json

/-- A text that does not go on with a numeral. -/
def EndsNumeral (rest : List Char) : Prop :=
  ∀ c ∈ rest.head?, c.isDigit = false ∧ c ≠ '.' ∧ c ≠ 'e' ∧ c ≠ 'E'

theorem endsNumeral_nil : EndsNumeral [] := fun _ hc => by cases hc

theorem spanDigits_append {ds rest : List Char} (hds : ∀ c ∈ ds, c.isDigit = true)
    (hrest : EndsNumeral rest) : spanDigits (ds ++ rest) = (ds, rest) := by
  have hstop : rest.takeWhile Char.isDigit = [] ∧ rest.dropWhile Char.isDigit = rest := by
    cases rest with
    | nil => exact ⟨rfl, rfl⟩
    | cons c rest =>
        have hc : c.isDigit = false := (hrest c rfl).1
        simp [hc]
  rw [spanDigits, List.takeWhile_append_of_pos hds, List.dropWhile_append_of_pos hds, hstop.1,
    hstop.2, List.append_nil]

theorem readFraction_of_ends {rest : List Char} (h : EndsNumeral rest) :
    readFraction rest = .ok ([], rest) := by
  cases rest with
  | nil => rfl
  | cons c rest =>
      have hpoint : c ≠ '.' := (h c rfl).2.1
      simp [readFraction, hpoint]

theorem readExponent_of_ends {rest : List Char} (h : EndsNumeral rest) :
    readExponent rest = .ok (none, rest) := by
  cases rest with
  | nil => rfl
  | cons c rest =>
      have hletter := (h c rfl).2.2
      simp [readExponent, hletter]

/-- Only the numeral of zero starts with a zero. -/
theorem head?_toDigits_ne {n : Nat} (h : 0 < n) : (Nat.toDigits 10 n).head? ≠ some '0' := by
  induction n using Nat.strong_induction_on with
  | _ n ih =>
      by_cases hn : n < 10
      · have hall : ∀ n < 10, 0 < n → Nat.digitChar n ≠ '0' := by decide
        rw [Nat.toDigits_of_lt_base hn]
        simpa using hall n hn h
      · have hquotient := ih (n / 10) (by omega) (by omega)
        rw [Nat.toDigits_of_base_le (by decide) (Nat.le_of_not_lt hn)]
        cases hds : Nat.toDigits 10 (n / 10) with
        | nil => exact absurd hds Nat.toDigits_ne_nil
        | cons d ds => rwa [hds] at hquotient

theorem isDigit_of_mem_toDigits {n : Nat} {c : Char} (h : c ∈ Nat.toDigits 10 n) :
    c.isDigit = true := Nat.isDigit_of_mem_toDigits (by decide) (by decide) h

theorem readWhole_toDigits (n : Nat) {rest : List Char} (h : EndsNumeral rest) :
    readWhole (Nat.toDigits 10 n ++ rest) = .ok (Nat.toDigits 10 n, rest) := by
  have hnonempty : (Nat.toDigits 10 n).isEmpty = false := by simp [Nat.toDigits_ne_nil]
  have hzero : ¬ ((Nat.toDigits 10 n).head? = some '0' ∧ 1 < (Nat.toDigits 10 n).length) := by
    rintro ⟨hhead, hlength⟩
    cases n with
    | zero => simp at hlength
    | succ n => exact head?_toDigits_ne (Nat.succ_pos n) hhead
  simp [readWhole, readDigits, spanDigits_append (fun c hc => isDigit_of_mem_toDigits hc) h,
    hnonempty, hzero, bind, Except.bind, pure, Except.pure]

/-- The numeral of a natural number. -/
def natural (n : Nat) : Numeral := ⟨false, Nat.toDigits 10 n, [], none⟩

/-- The numeral of a natural number is read up to where it ends. -/
theorem readNumeral_toDigits (n : Nat) {rest : List Char} (h : EndsNumeral rest) :
    readNumeral (Nat.toDigits 10 n ++ rest) = .ok (natural n, rest) := by
  have hparts : readParts false (Nat.toDigits 10 n ++ rest) = .ok (natural n, rest) := by
    simp [readParts, readWhole_toDigits n h, readFraction_of_ends h, readExponent_of_ends h,
      natural, bind, Except.bind, pure, Except.pure]
  cases hds : Nat.toDigits 10 n with
  | nil => exact absurd hds Nat.toDigits_ne_nil
  | cons d ds =>
      have hminus : d ≠ '-' := by
        rintro rfl
        exact absurd (isDigit_of_mem_toDigits (hds ▸ List.mem_cons_self)) (by decide)
      rw [hds, List.cons_append] at hparts
      simpa [readNumeral, hminus] using hparts

/-! ### Values -/

theorem le_ofDigitChars (ds : List Char) (init : Nat) : init ≤ Nat.ofDigitChars 10 ds init := by
  induction ds generalizing init with
  | nil => exact Nat.le_refl _
  | cons d ds ih =>
      have hrest := ih (10 * init + (d.toNat - '0'.toNat))
      rw [Nat.ofDigitChars_cons]
      omega

/-- Digits are taken while their value can be held, and so all of them are. -/
theorem take_of_le (ds : List Char) (significand : Nat)
    (h : Nat.ofDigitChars 10 ds significand ≤ Numeral.maxSignificand) :
    Numeral.take significand ds = (Nat.ofDigitChars 10 ds significand, ds.length, []) := by
  induction ds generalizing significand with
  | nil => rfl
  | cons d ds ih =>
      have hnext : significand * 10 + digitValue d = 10 * significand + (d.toNat - '0'.toNat) :=
        congrArg (· + digitValue d) (Nat.mul_comm ..)
      rw [Nat.ofDigitChars_cons] at h ⊢
      have hfits := le_ofDigitChars ds (10 * significand + (d.toNat - '0'.toNat))
      have hrest := ih _ h
      simp only [Numeral.take, hnext, if_neg (Nat.not_lt.2 (hfits.trans h)), hrest,
        List.length_cons]

/-- A natural number of 64 bits is the value of its numeral. -/
theorem value?_natural {n : Nat} (h : n < UInt64.size) :
    (natural n).value? = some (.integer n) := by
  have hvalue : Nat.ofDigitChars 10 (Nat.toDigits 10 n) 0 = n :=
    Nat.ofDigitChars_toDigits (by decide) (by decide)
  have hle : n ≤ Numeral.maxSignificand := Nat.le_sub_one_of_lt h
  have htake := take_of_le (Nat.toDigits 10 n) 0 (by rwa [hvalue])
  rw [hvalue] at htake
  simp [Numeral.value?, natural, htake]

end Json

end AccessPolicy
