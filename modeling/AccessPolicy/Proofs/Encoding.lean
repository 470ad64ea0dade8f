import AccessPolicy.Text.Utf8

/-!
# AccessPolicy.Proofs.Encoding

Bytes are read as a text iff they are the bytes of that text.

The bytes of one character have one of four forms, a `Production`, which say how many
they are and what number they carry.

* `production_utf8EncodeChar` — the bytes of a character have the form for its number;
* `Production.utf8EncodeChar` — bytes of one of the forms are those of a character;
* `decodeUtf8From_append`, `decodeUtf8From_eq_ok` — the reader takes one form after another;
* `decodeUtf8_eq_ok_iff` — so it is right about all texts.
-/

namespace AccessPolicy.Text

/-! ## Forms -/

/-- A byte that continues a character. -/
def Continues (b : UInt8) : Prop := 128 ≤ b.toNat ∧ b.toNat < 192

/-- Some bytes are a form for the number of a character. -/
inductive Production : List UInt8 → Nat → Prop where
  | one {a : UInt8} (ha : a.toNat < 128) : Production [a] a.toNat
  | two {a b : UInt8} (ha : 194 ≤ a.toNat ∧ a.toNat < 224) (hb : Continues b) :
      Production [a, b] (a.toNat % 32 * 64 + b.toNat % 64)
  /-- Neither overlong nor a surrogate. -/
  | three {a b c : UInt8} (ha : 224 ≤ a.toNat ∧ a.toNat < 240) (hb : Continues b)
      (hlong : a.toNat = 224 → 160 ≤ b.toNat) (hsurrogate : a.toNat = 237 → b.toNat < 160)
      (hc : Continues c) :
      Production [a, b, c] ((a.toNat % 16 * 64 + b.toNat % 64) * 64 + c.toNat % 64)
  /-- Neither overlong nor beyond the last code point. -/
  | four {a b c d : UInt8} (ha : 240 ≤ a.toNat ∧ a.toNat < 245) (hb : Continues b)
      (hlong : a.toNat = 240 → 144 ≤ b.toNat) (hlast : a.toNat = 244 → b.toNat < 144)
      (hc : Continues c) (hd : Continues d) :
      Production [a, b, c, d]
        (((a.toNat % 8 * 64 + b.toNat % 64) * 64 + c.toNat % 64) * 64 + d.toNat % 64)

theorem toNat_ofNat_of_lt {n : Nat} (h : n < 256) : (UInt8.ofNat n).toNat = n := by
  rw [UInt8.toNat_ofNat', Nat.mod_eq_of_lt h]

/-- The bytes of a character have the form for its number. -/
theorem production_utf8EncodeChar (c : Char) : Production (String.utf8EncodeChar c) c.toNat := by
  have hvalid : c.toNat < 0xD800 ∨ 0xDFFF < c.toNat ∧ c.toNat < 0x110000 := c.valid
  have hval : c.val.toNat = c.toNat := rfl
  simp only [String.utf8EncodeChar, hval]
  generalize c.toNat = v at hvalid
  have hrest {n : Nat} : (UInt8.ofNat (n % 64 + 128)).toNat = n % 64 + 128 :=
    toNat_ofNat_of_lt (by omega)
  have hcontinues {n : Nat} : Continues (UInt8.ofNat (n % 64 + 128)) := by
    rw [Continues, hrest]
    omega
  split
  · have ha := toNat_ofNat_of_lt (n := v) (by omega)
    have h := Production.one (a := UInt8.ofNat v) (by omega)
    rwa [ha] at h
  split
  · have ha := toNat_ofNat_of_lt (n := v / 64 % 32 + 192) (by omega)
    have h := Production.two (a := UInt8.ofNat (v / 64 % 32 + 192)) (by omega)
      (hcontinues (n := v))
    rwa [ha, hrest, show (v / 64 % 32 + 192) % 32 * 64 + (v % 64 + 128) % 64 = v by omega] at h
  split
  · have ha := toNat_ofNat_of_lt (n := v / 4096 % 16 + 224) (by omega)
    have h := Production.three (a := UInt8.ofNat (v / 4096 % 16 + 224)) (by omega)
      (hcontinues (n := v / 64)) (by rw [ha, hrest]; omega) (by rw [ha, hrest]; omega)
      (hcontinues (n := v))
    rwa [ha, hrest, hrest, show ((v / 4096 % 16 + 224) % 16 * 64 + (v / 64 % 64 + 128) % 64) * 64 +
      (v % 64 + 128) % 64 = v by omega] at h
  · have ha := toNat_ofNat_of_lt (n := v / 262144 % 8 + 240) (by omega)
    have h := Production.four (a := UInt8.ofNat (v / 262144 % 8 + 240)) (by omega)
      (hcontinues (n := v / 4096)) (by rw [ha, hrest]; omega) (by rw [ha, hrest]; omega)
      (hcontinues (n := v / 64)) (hcontinues (n := v))
    rwa [ha, hrest, hrest, hrest, show (((v / 262144 % 8 + 240) % 8 * 64 +
      (v / 4096 % 64 + 128) % 64) * 64 + (v / 64 % 64 + 128) % 64) * 64 + (v % 64 + 128) % 64 = v
        by omega] at h

/-- The number of a form is that of a character. -/
theorem Production.isValidChar {bs : List UInt8} {v : Nat} (h : Production bs v) :
    v.isValidChar := by
  cases h <;> simp only [Nat.isValidChar, Continues] at * <;> omega

/-- Bytes of one of the forms are those of a character. -/
theorem Production.utf8EncodeChar {bs : List UInt8} {v : Nat} (h : Production bs v) :
    String.utf8EncodeChar (Char.ofNat v) = bs := by
  have hval : (Char.ofNat v).val.toNat = v := by rw [Char.ofNat, dif_pos h.isValidChar]; rfl
  simp only [String.utf8EncodeChar, hval]
  cases h with
  | one ha => rw [if_pos (by omega)]; simp
  | two ha hb =>
      simp only [Continues] at hb
      rw [if_neg (by omega), if_pos (by omega)]
      simp only [List.cons.injEq, and_true, ← UInt8.toNat_inj, UInt8.toNat_ofNat']
      omega
  | three ha hb hlong hsurrogate hc =>
      simp only [Continues] at hb hc
      rw [if_neg (by omega), if_neg (by omega), if_pos (by omega)]
      simp only [List.cons.injEq, and_true, ← UInt8.toNat_inj, UInt8.toNat_ofNat']
      omega
  | four ha hb hlong hlast hc hd =>
      simp only [Continues] at hb hc hd
      rw [if_neg (by omega), if_neg (by omega), if_neg (by omega)]
      simp only [List.cons.injEq, and_true, ← UInt8.toNat_inj, UInt8.toNat_ofNat']
      omega

/-! ## Reading -/

theorem continuesChar_iff {b : UInt8} : continuesChar b = true ↔ Continues b := by
  simp only [continuesChar, Continues, Bool.and_eq_true, decide_eq_true_eq, UInt8.le_iff_toNat_le]
  exact and_congr_right fun _ => Nat.lt_succ_iff.symm

theorem secondOfThree_iff {a b : UInt8} : secondOfThree a b = true ↔
    Continues b ∧ (a.toNat = 224 → 160 ≤ b.toNat) ∧ (a.toNat = 237 → b.toNat < 160) := by
  have hfirst : a = 0xE0 ↔ a.toNat = 224 := UInt8.toNat_inj.symm
  have hlast : a = 0xED ↔ a.toNat = 237 := UInt8.toNat_inj.symm
  simp only [secondOfThree, hfirst, hlast]
  split
  · simp [Continues, UInt8.le_iff_toNat_le, *]
    omega
  split
  · simp [Continues, UInt8.le_iff_toNat_le, *]
    omega
  · simp [continuesChar_iff, *]

theorem secondOfFour_iff {a b : UInt8} : secondOfFour a b = true ↔
    Continues b ∧ (a.toNat = 240 → 144 ≤ b.toNat) ∧ (a.toNat = 244 → b.toNat < 144) := by
  have hfirst : a = 0xF0 ↔ a.toNat = 240 := UInt8.toNat_inj.symm
  have hlast : a = 0xF4 ↔ a.toNat = 244 := UInt8.toNat_inj.symm
  simp only [secondOfFour, hfirst, hlast]
  split
  · simp [Continues, UInt8.le_iff_toNat_le, *]
    omega
  split
  · simp [Continues, UInt8.le_iff_toNat_le, *]
    omega
  · simp [continuesChar_iff, *]

/-- A form in front is read as its character. -/
theorem decodeUtf8From_append {form : List UInt8} {v : Nat} (h : Production form v)
    (offset : Nat) (rest : List UInt8) :
    decodeUtf8From offset (form ++ rest) =
      (Char.ofNat v :: ·) <$> decodeUtf8From (offset + form.length) rest := by
  rw [decodeUtf8From.eq_def]
  cases h with
  | one ha =>
      simp only [List.cons_append, List.nil_append, UInt8.lt_iff_toNat_lt, UInt8.reduceToNat]
      rw [if_pos ha]
      rfl
  | two ha hb =>
      simp only [List.cons_append, List.nil_append, UInt8.lt_iff_toNat_lt, UInt8.reduceToNat]
      rw [if_neg (by omega), if_neg (by omega), if_pos ha.2, if_pos (continuesChar_iff.2 hb)]
      rfl
  | three ha hb hlong hsurrogate hc =>
      have hsecond := secondOfThree_iff.2 ⟨hb, hlong, hsurrogate⟩
      simp only [List.cons_append, List.nil_append, UInt8.lt_iff_toNat_lt, UInt8.reduceToNat,
        hsecond, continuesChar_iff.2 hc]
      rw [if_neg (by omega), if_neg (by omega), if_neg (by omega), if_pos ha.2]
      rfl
  | four ha hb hlong hlast hc hd =>
      have hsecond := secondOfFour_iff.2 ⟨hb, hlong, hlast⟩
      simp only [List.cons_append, List.nil_append, UInt8.lt_iff_toNat_lt, UInt8.reduceToNat,
        hsecond, continuesChar_iff.2 hc, continuesChar_iff.2 hd]
      rw [if_neg (by omega), if_neg (by omega), if_neg (by omega), if_neg (by omega), if_pos ha.2]
      rfl

/-- What can be read begins with a form. -/
theorem exists_production {offset : Nat} {bs : List UInt8} {cs : List Char}
    (h : decodeUtf8From offset bs = .ok cs) (hne : bs ≠ []) :
    ∃ form v rest, Production form v ∧ bs = form ++ rest := by
  fun_cases decodeUtf8From offset bs
  case case1 => exact absurd rfl hne
  case case2 a rest ha => exact ⟨[a], _, rest, .one (UInt8.lt_iff_toNat_lt.1 ha), rfl⟩
  case case5 a _ hlow hhigh b rest hb =>
      rw [UInt8.not_lt, UInt8.le_iff_toNat_le] at hlow
      exact ⟨[a, b], _, rest, .two ⟨hlow, UInt8.lt_iff_toNat_lt.1 hhigh⟩ (continuesChar_iff.1 hb),
        rfl⟩
  case case10 a _ _ hlow hhigh b hb c rest hc =>
      rw [UInt8.not_lt, UInt8.le_iff_toNat_le] at hlow
      obtain ⟨hb, hlong, hsurrogate⟩ := secondOfThree_iff.1 (by simpa using hb)
      exact ⟨[a, b, c], _, rest, .three ⟨hlow, UInt8.lt_iff_toNat_lt.1 hhigh⟩ hb hlong hsurrogate
        (continuesChar_iff.1 hc), rfl⟩
  case case17 a _ _ _ hlow hhigh b hb c hc d rest hd =>
      rw [UInt8.not_lt, UInt8.le_iff_toNat_le] at hlow
      obtain ⟨hb, hlong, hlast⟩ := secondOfFour_iff.1 (by simpa using hb)
      exact ⟨[a, b, c, d], _, rest, .four ⟨hlow, UInt8.lt_iff_toNat_lt.1 hhigh⟩ hb hlong hlast
        (continuesChar_iff.1 (by simpa using hc)) (continuesChar_iff.1 hd), rfl⟩
  -- in all other cases nothing is read
  all_goals
    rw [decodeUtf8From.eq_def] at h
    simp [*] at h

/-- What is read first is the character of that form. -/
theorem decodeUtf8From_eq_ok {offset : Nat} {bs : List UInt8} {cs : List Char}
    (h : decodeUtf8From offset bs = .ok cs) (hne : bs ≠ []) :
    ∃ c rest cs', bs = String.utf8EncodeChar c ++ rest ∧ cs = c :: cs' ∧
      ∃ offset', decodeUtf8From offset' rest = .ok cs' := by
  obtain ⟨form, v, rest, hform, rfl⟩ := exists_production h hne
  rw [decodeUtf8From_append hform] at h
  cases hrest : decodeUtf8From (offset + form.length) rest with
  | error e =>
      rw [hrest] at h
      cases h
  | ok cs' =>
      rw [hrest] at h
      exact ⟨Char.ofNat v, rest, cs', by rw [hform.utf8EncodeChar], (Except.ok.inj h).symm, _,
        hrest⟩

/-- The characters read are those whose bytes are there. -/
theorem decodeUtf8From_eq_ok_iff {offset : Nat} {bs : List UInt8} {cs : List Char} :
    decodeUtf8From offset bs = .ok cs ↔ cs.flatMap String.utf8EncodeChar = bs := by
  constructor
  · intro h
    induction cs generalizing offset bs with
    | nil =>
        by_cases hne : bs = []
        · simp [hne]
        · obtain ⟨_, _, _, _, hcs, -⟩ := decodeUtf8From_eq_ok h hne
          cases hcs
    | cons c cs ih =>
        have hne : bs ≠ [] := by
          rintro rfl
          rw [decodeUtf8From] at h
          cases h
        obtain ⟨_, rest, _, rfl, hcs, _, hrest⟩ := decodeUtf8From_eq_ok h hne
        obtain ⟨rfl, rfl⟩ := List.cons.inj hcs
        rw [List.flatMap_cons, ih hrest]
  · rintro rfl
    induction cs generalizing offset with
    | nil => rw [List.flatMap_nil, decodeUtf8From]
    | cons c cs ih =>
        rw [List.flatMap_cons, decodeUtf8From_append (production_utf8EncodeChar c), ih,
          Char.ofNat_toNat]
        rfl

/-- **Texts**: bytes are read as a text iff they are the bytes of that text. -/
theorem decodeUtf8_eq_ok_iff {bs : List UInt8} {s : String} :
    decodeUtf8 bs = .ok s ↔ encodeUtf8 s = bs := by
  rw [encodeUtf8, ← @decodeUtf8From_eq_ok_iff 0, decodeUtf8]
  cases decodeUtf8From 0 bs with
  | error e => exact iff_of_false (fun h => by cases h) (fun h => by cases h)
  | ok cs =>
      have htext : String.ofList cs = s ↔ cs = s.toList := by
        rw [← String.toList_inj, String.toList_ofList]
      exact (Except.ok.injEq _ _).to_iff.trans (htext.trans (Except.ok.injEq _ _).to_iff.symm)

/-- Bytes that are not read as a text are those of none. -/
theorem exists_decodeUtf8_eq_error_iff {bs : List UInt8} :
    (∃ e, decodeUtf8 bs = .error e) ↔ ∀ s, encodeUtf8 s ≠ bs := by
  simp only [ne_eq, ← decodeUtf8_eq_ok_iff]
  cases decodeUtf8 bs <;> simp

end AccessPolicy.Text
