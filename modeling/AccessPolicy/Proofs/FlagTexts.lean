import AccessPolicy.Proofs.Storing

/-!
# AccessPolicy.Proofs.FlagTexts

What the text of policy bits says, and how texts that are joined by a bar are read.

The names overlap: one of them stands for five other flags, one for no bit and one for all
bits.  A value is written by the flags that it contains, in their order, and a flag is left out
when those before it have all of its bits.  The numeral behind the names has the bits that
belong to no contained flag, so that no bit is written as less or as more than it is.

Two texts with a bar between them are cut into the parts of the first and the parts of the
second.  The parts of the second are read on to the value of the first, and not at all if the
first cannot be read.

* `named_names` — the flags by which a value is written;
* `readParts_append`, `readParts_union` — reading on to a value;
* `parse_joined` — reading two texts with a bar between them;
* `texts_read_back` — all of this about the texts.
-/

namespace AccessPolicy

open Json

namespace PolicyBits

/-! ## Names -/

/-- The flags by which the part `remaining` of a value is written when it may have the names of
`fs`, and the bits that are left. -/
structure Named (value remaining : PolicyBits) (fs named : List (String × PolicyBits))
    (left : PolicyBits) : Prop where
  /-- They stand in their order, and each of them once. -/
  inOrder : named.Sublist fs
  /-- The value contains each of them. -/
  contained : ∀ f ∈ named, value.contains f.2 = true
  /-- Each of them has a bit that those before it lack. -/
  needed : ∀ front f back, named = front ++ f :: back →
    ∃ i, remaining.bit i = true ∧ f.2.bit i = true ∧ ∀ g ∈ front, g.2.bit i = false
  /-- What they lack is left, and nothing else. -/
  bit_left : ∀ i, left.bit i = true ↔ remaining.bit i = true ∧ ∀ f ∈ named, f.2.bit i = false
  /-- No bit is left that belongs to a contained flag. -/
  complete : ∀ f ∈ fs, value.contains f.2 = true → left.meets f.2 = false

/-- Bits that are left of the remaining ones were among them. -/
theorem Named.bit_remaining {value remaining left : PolicyBits}
    {fs named : List (String × PolicyBits)} (h : Named value remaining fs named left) {i : Nat}
    (hi : left.bit i = true) : remaining.bit i = true :=
  ((h.bit_left i).1 hi).1

theorem meets_eq_false_iff {b other : PolicyBits} :
    b.meets other = false ↔ ∀ i, b.bit i = true → other.bit i = false := by
  rw [← Bool.not_eq_true, meets_iff]
  simp

theorem bit_sdiff_iff {a b : PolicyBits} {i : Nat} :
    (a \ b).bit i = true ↔ a.bit i = true ∧ b.bit i = false := by
  simp

section Step

variable {value remaining left : PolicyBits} {fs named : List (String × PolicyBits)}
  {f : String × PolicyBits}

/-- A flag that is contained, with a bit that still remains, is named. -/
theorem Named.cons (h : Named value (remaining \ f.2) fs named left)
    (hcontains : value.contains f.2 = true) (hmeets : remaining.meets f.2 = true) :
    Named value remaining (f :: fs) (f :: named) left where
  inOrder := h.inOrder.cons_cons f
  contained := List.forall_mem_cons.2 ⟨hcontains, h.contained⟩
  needed := by
    intro front g back hcut
    cases front with
    | nil =>
        obtain ⟨i, hi, hf⟩ := meets_iff.1 hmeets
        obtain ⟨rfl, -⟩ := List.cons.inj hcut
        exact ⟨i, hi, hf, by simp⟩
    | cons g' front =>
        obtain ⟨rfl, hrest⟩ := List.cons.inj hcut
        obtain ⟨i, hi, hg, hfront⟩ := h.needed front g back hrest
        obtain ⟨hremains, hf⟩ := bit_sdiff_iff.1 hi
        exact ⟨i, hremains, hg, List.forall_mem_cons.2 ⟨hf, hfront⟩⟩
  bit_left := by
    intro i
    rw [h.bit_left, bit_sdiff_iff, List.forall_mem_cons, and_assoc]
  complete := by
    have hfirst : left.meets f.2 = false :=
      meets_eq_false_iff.2 fun i hi => (bit_sdiff_iff.1 (h.bit_remaining hi)).2
    exact List.forall_mem_cons.2 ⟨fun _ => hfirst, h.complete⟩

/-- Any other flag is not. -/
theorem Named.skip (h : Named value remaining fs named left)
    (hother : value.contains f.2 = true → remaining.meets f.2 = false) :
    Named value remaining (f :: fs) named left where
  inOrder := h.inOrder.cons f
  contained := h.contained
  needed := h.needed
  bit_left := h.bit_left
  complete := by
    have hfirst : value.contains f.2 = true → left.meets f.2 = false := fun hcontains =>
      meets_eq_false_iff.2 fun i hi =>
        meets_eq_false_iff.1 (hother hcontains) i (h.bit_remaining hi)
    exact List.forall_mem_cons.2 ⟨hfirst, h.complete⟩

end Step

theorem named_namesFrom (value remaining : PolicyBits) (fs : List (String × PolicyBits)) :
    ∃ named, (namesFrom value remaining fs).1 = named.map (·.1) ∧
      Named value remaining fs named (namesFrom value remaining fs).2 := by
  induction fs generalizing remaining with
  | nil => exact ⟨[], rfl, .slnil, by simp, by simp, by simp [namesFrom], by simp⟩
  | cons f fs ih =>
      rw [namesFrom]
      split
      · rename_i hnamed
        obtain ⟨hcontains, hmeets⟩ := Bool.and_eq_true_iff.1 hnamed
        obtain ⟨named, hnames, hrest⟩ := ih (remaining \ f.2)
        exact ⟨f :: named, congrArg (f.1 :: ·) hnames, hrest.cons hcontains hmeets⟩
      · rename_i hother
        obtain ⟨named, hnames, hrest⟩ := ih remaining
        exact ⟨named, hnames, hrest.skip fun hcontains => by simpa [hcontains] using hother⟩

/-- A value is written by the flags that it contains, as far as they are needed. -/
theorem named_names (b : PolicyBits) :
    ∃ named, b.names = named.map (·.1) ∧ Named b b flags named b.unnamed :=
  named_namesFrom b b flags

/-! ## Joined texts -/

/-- Parts behind others are read on to the value of those. -/
theorem readParts_append (sum : PolicyBits) (parts rest : List (List Char)) :
    readParts sum (parts ++ rest) = (readParts sum parts).bind fun b => readParts b rest := by
  induction parts generalizing sum with
  | nil => rfl
  | cons part parts ih =>
      rw [List.cons_append, readParts, readParts]
      cases readPart (Text.trim part) with
      | error e => rfl
      | ok b => exact ih (sum ∪ b)

theorem union_assoc (a b c : PolicyBits) : a ∪ b ∪ c = a ∪ (b ∪ c) :=
  ext_bit fun i => by simp [Bool.or_assoc]

@[simp] theorem union_empty (b : PolicyBits) : b ∪ ∅ = b := ext_bit fun i => by simp

@[simp] theorem empty_union (b : PolicyBits) : ∅ ∪ b = b := ext_bit fun i => by simp

/-- Reading on to a value is reading, and then adding the value. -/
theorem readParts_union (sum : PolicyBits) (parts : List (List Char)) :
    readParts sum parts = (readParts ∅ parts).map (sum ∪ ·) := by
  induction parts generalizing sum with
  | nil => simp [readParts, Except.map]
  | cons part parts ih =>
      rw [readParts, readParts]
      cases readPart (Text.trim part) with
      | error e => rfl
      | ok b =>
          -- Both sides add what the rest gives to the part.
          simp only [empty_union]
          rw [ih (sum ∪ b), ih b]
          cases readParts ∅ parts with
          | error e => rfl
          | ok c => exact congrArg Except.ok (union_assoc sum b c)

/-- A text that is not blank is read part by part. -/
theorem parse_of_not_blank {s : String} (h : ∃ c ∈ s.toList, Text.isBlank c = false) :
    parse s = readParts ∅ (s.toList.splitOn '|') := by
  obtain ⟨c, hc, hsolid⟩ := h
  have hkept : Text.trim s.toList ≠ [] := by
    intro hnone
    rw [Text.isBlank_of_trim_eq_nil hnone c hc] at hsolid
    cases hsolid
  rw [parse, if_neg hkept]

/-- A text that cannot be read is not blank. -/
theorem not_blank_of_parse {s : String} {e : FlagError} (h : parse s = .error e) :
    ∃ c ∈ s.toList, Text.isBlank c = false := by
  refine Classical.byContradiction fun hnone => ?_
  have hblank : ∀ c ∈ s.toList, Text.isBlank c = true := by simpa using hnone
  have htrim : Text.trim s.toList = [] := by
    rw [Text.trim, List.dropWhile_eq_nil_iff.2 hblank]
    rfl
  rw [parse, if_pos htrim] at h
  cases h

/-- Two texts with a bar between them are read one after the other. -/
theorem parse_joined (s t : String) :
    parse (s ++ "|" ++ t) = (readParts ∅ (s.toList.splitOn '|')).bind fun b =>
      (readParts ∅ (t.toList.splitOn '|')).map (b ∪ ·) := by
  have htext : (s ++ "|" ++ t).toList = s.toList ++ '|' :: t.toList := by simp
  have hbar : ∃ c ∈ (s ++ "|" ++ t).toList, Text.isBlank c = false :=
    ⟨'|', by simp, by decide⟩
  have hcut : (s.toList ++ '|' :: t.toList).splitOn '|' =
      s.toList.splitOn '|' ++ t.toList.splitOn '|' :=
    List.splitOnP_append_cons _ _ (by simp)
  rw [parse_of_not_blank hbar, htext, hcut, readParts_append]
  exact congrArg _ (funext fun b => readParts_union b _)

/-! ## Texts -/

theorem readText_toValue (b : PolicyBits) {s : String} (h : b.toValue.WrittenAs s) :
    readText PolicyBits.ofDoc s = .ok b :=
  readText_of_writes h b.ofDoc_toValue

/-- **Texts of policy bits**: a text names the flags that are needed, in their order, with the
numeral of the other bits behind them, and it reads as the value, also from a document; so
different values have different texts.  Two texts that are not blank, with a bar between them,
read as the union of their values, and where the first cannot be read, the complaint is the one
about the first. -/
theorem texts_read_back :
    (∀ b : PolicyBits, ∃ named, Named b b flags named b.unnamed ∧
      b.text = String.intercalate " | " (named.map (·.1) ++
        if b.unnamed = ∅ then [] else [b.unnamed.hexText]) ∧
      parse b.text = .ok b ∧
      b.toValue.WrittenAs b.toValue.text ∧
      ∀ s, b.toValue.WrittenAs s → readText PolicyBits.ofDoc s = .ok b) ∧
    Function.Injective text ∧
    ∀ s t : String,
      ((∃ c ∈ s.toList, Text.isBlank c = false) → (∃ c ∈ t.toList, Text.isBlank c = false) →
        ∀ a b, parse s = .ok a → parse t = .ok b → parse (s ++ "|" ++ t) = .ok (a ∪ b)) ∧
      ∀ e, parse s = .error e → parse (s ++ "|" ++ t) = .error e := by
  refine ⟨fun b => ?_, fun a b htext => ?_, fun s t => ⟨fun hs ht a b ha hb => ?_, fun e he => ?_⟩⟩
  · obtain ⟨named, hnames, hnamed⟩ := b.named_names
    have htext : b.text = String.intercalate " | " (named.map (·.1) ++
        if b.unnamed = ∅ then [] else [b.unnamed.hexText]) := by
      rw [text, parts, hnames]
    exact ⟨named, hnamed, htext, parse_text b, writes_text trivial, fun _ => b.readText_toValue⟩
  · have hread : parse a.text = .ok b := by rw [htext, parse_text b]
    rw [parse_text a] at hread
    exact Except.ok.inj hread
  · rw [parse_of_not_blank hs] at ha
    rw [parse_of_not_blank ht] at hb
    rw [parse_joined, ha, hb]
    rfl
  · rw [parse_of_not_blank (not_blank_of_parse he)] at he
    rw [parse_joined, he]
    rfl

/-- A name and a padded numeral, and a text whose first part is no flag. -/
theorem texts_read_back_sample :
    parse "ALLOW_READ| DENY |0x100" = .ok ⟨0x121⟩ ∧
      parse "nothing|| 0xg" = .error .unknownName := by
  obtain ⟨-, -, hjoined⟩ := texts_read_back
  have hunion := (hjoined "ALLOW_READ" " DENY |0x100").1 ⟨'A', by decide, by decide⟩
    ⟨'D', by decide, by decide⟩ allowRead ⟨0x120⟩ (by decide +kernel) (by decide +kernel)
  have herror := (hjoined "nothing" "| 0xg").2 .unknownName (by decide +kernel)
  exact ⟨hunion, herror⟩

end PolicyBits

end AccessPolicy
