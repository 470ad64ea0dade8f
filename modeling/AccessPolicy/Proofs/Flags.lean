import AccessPolicy.PolicyBits.Text
import AccessPolicy.Proofs.Numerals
import Mathlib.Data.List.TakeWhile

/-!
# AccessPolicy.Proofs.Flags

Policy bits are read back from their text.

The text is cut at its bars and every part is trimmed.  A name holds neither bars nor white
space, and no numeral does, so the parts are those that were written:

1. every name stands for flags that the value contains;
2. what no name accounts for is the numeral at the end.

* `trim_padded` — trimming takes away white space, and nothing else;
* `readParts_cut` — a text is read part by part;
* `readParts_names` — the names of a value and the bits without a name make it up;
* `parse_text` — the text of a value reads as the value.
-/

namespace AccessPolicy

/-! ## Trimming -/

namespace Text

/-- Trimming takes away white space on both sides. -/
theorem trim_padded {lead cs trail : List Char} (hlead : ∀ c ∈ lead, isBlank c = true)
    (hcs : ∀ c ∈ cs, isBlank c = false) (hne : cs ≠ []) (htrail : ∀ c ∈ trail, isBlank c = true) :
    trim (lead ++ (cs ++ trail)) = cs := by
  have hfront : (cs ++ trail).dropWhile isBlank = cs ++ trail := by
    cases cs with
    | nil => exact absurd rfl hne
    | cons c cs => simp [hcs c List.mem_cons_self]
  have hback : cs.reverse.dropWhile isBlank = cs.reverse := by
    cases h : cs.reverse with
    | nil => rfl
    | cons c rest =>
        have hc : c ∈ cs := List.mem_reverse.1 (h ▸ List.mem_cons_self)
        simp [hcs c hc]
  have htrail' : ∀ c ∈ trail.reverse, isBlank c = true := by simpa using htrail
  rw [trim, List.dropWhile_append_of_pos hlead, hfront, List.reverse_append,
    List.dropWhile_append_of_pos htrail', hback, List.reverse_reverse]

/-- A text of which nothing is left is blank. -/
theorem isBlank_of_trim_eq_nil {cs : List Char} (h : trim cs = []) :
    ∀ c ∈ cs, isBlank c = true := by
  have hdropped : ∀ c ∈ cs.dropWhile isBlank, isBlank c = true := by
    simpa [trim, List.dropWhile_eq_nil_iff] using h
  intro c hc
  rw [← List.takeWhile_append_dropWhile (p := isBlank) (l := cs), List.mem_append] at hc
  cases hc with
  | inl htaken => exact List.mem_takeWhile_imp htaken
  | inr hrest => exact hdropped c hrest

/-! ## Cutting -/

/-- A text without the separator is not cut. -/
theorem splitOn_of_ne {sep : Char} {cs : List Char} (h : ∀ c ∈ cs, c ≠ sep) :
    cs.splitOn sep = [cs] :=
  List.splitOnP_eq_singleton fun c hc => beq_false_of_ne (h c hc)

/-- A text is cut at its first separator. -/
theorem splitOn_append {sep : Char} {cs : List Char} (h : ∀ c ∈ cs, c ≠ sep) (rest : List Char) :
    (cs ++ sep :: rest).splitOn sep = cs :: rest.splitOn sep := by
  have hfirst := splitOn_of_ne h
  unfold List.splitOn at hfirst ⊢
  rw [List.splitOnP_append_cons _ _ (by simp), hfirst]
  rfl

end Text

namespace PolicyBits

/-! ## Parts -/

/-- A part of a text, without bars and white space. -/
structure Solid (part : List Char) : Prop where
  nonempty : part ≠ []
  plain : ∀ c ∈ part, Text.isBlank c = false ∧ c ≠ '|'

/-- What a part is padded with. -/
def Spaces (cs : List Char) : Prop := ∀ c ∈ cs, c = ' '

theorem spaces_nil : Spaces [] := fun _ hc => absurd hc List.not_mem_nil

section Padded

variable {part : List Char} (h : Solid part) {lead trail : List Char} (hlead : Spaces lead)
  (htrail : Spaces trail)

include h hlead htrail

/-- A padded part is trimmed to the part. -/
theorem Solid.trim_eq : Text.trim (lead ++ (part ++ trail)) = part := by
  have hspace : Text.isBlank ' ' = true := by decide
  exact Text.trim_padded (fun c hc => hlead c hc ▸ hspace) (fun c hc => (h.plain c hc).1)
    h.nonempty fun c hc => htrail c hc ▸ hspace

/-- It holds no bars. -/
theorem Solid.ne_bar : ∀ c ∈ lead ++ (part ++ trail), c ≠ '|' := by
  intro c hc
  simp only [List.mem_append] at hc
  rcases hc with hc | hc | hc
  · exact hlead c hc ▸ by decide
  · exact (h.plain c hc).2
  · exact htrail c hc ▸ by decide

end Padded

theorem Solid.trim_self {part : List Char} (h : Solid part) : Text.trim part = part := by
  have htrim := h.trim_eq spaces_nil spaces_nil
  rwa [List.nil_append, List.append_nil] at htrim

/-- A text that is put together of parts is cut into them. -/
theorem readParts_cut (sum : PolicyBits) {lead : List Char} (hlead : Spaces lead)
    {parts : List (List Char)} (hne : parts ≠ []) (hsolid : ∀ part ∈ parts, Solid part) :
    readParts sum ((lead ++ [' ', '|', ' '].intercalate parts).splitOn '|') =
      readParts sum parts := by
  -- Behind a bar, a part has a space in front of it.
  induction parts generalizing sum lead with
  | nil => exact absurd rfl hne
  | cons part parts ih =>
      obtain ⟨hpart, hparts⟩ := List.forall_mem_cons.1 hsolid
      have hspace : Spaces [' '] := by simp [Spaces]
      cases parts with
      | nil =>
          have htrim := hpart.trim_eq hlead spaces_nil
          have hcut := Text.splitOn_of_ne (hpart.ne_bar hlead spaces_nil)
          rw [List.append_nil] at htrim hcut
          simp [hcut, readParts, htrim, hpart.trim_self]
      | cons next parts =>
          have htext : lead ++ [' ', '|', ' '].intercalate (part :: next :: parts) =
              (lead ++ (part ++ [' '])) ++
                '|' :: ([' '] ++ [' ', '|', ' '].intercalate (next :: parts)) := by
            simp [List.intercalate]
          rw [htext, Text.splitOn_append (hpart.ne_bar hlead hspace), readParts, readParts,
            hpart.trim_eq hlead hspace, hpart.trim_self]
          cases readPart part with
          | error e => rfl
          | ok b => exact ih (sum ∪ b) hspace (List.cons_ne_nil _ _) hparts

/-! ## What was written -/

/-- The name of a flag is one part, which reads as the flag. -/
theorem readPart_flag {f : String × PolicyBits} (h : f ∈ flags) :
    Solid f.1.toList ∧ readPart f.1.toList = .ok f.2 := by
  have hnames : ∀ f ∈ flags, f.1.toList ≠ [] ∧
      f.1.toList.all (fun c => !Text.isBlank c && c != '|') = true := by decide +kernel
  have hread : ∀ f ∈ flags, readPart f.1.toList = .ok f.2 := by decide +kernel
  obtain ⟨hne, hall⟩ := hnames f h
  exact ⟨⟨hne, by simpa using hall⟩, hread f h⟩

theorem readWord_hexNumeral (b : PolicyBits) :
    readWord (Text.hexNumeral b.word.toNat) = some b := by
  have hread := Text.readHex_hexNumeral b.word.toNat
  have hlt : b.word.toNat < UInt32.size := b.word.isLt
  cases h : Text.hexNumeral b.word.toNat with
  | nil => exact absurd h Nat.toDigits_ne_nil
  | cons c cs =>
      have hplus : c ≠ '+' := by
        obtain ⟨d, hd, rfl⟩ := Text.exists_digit_of_mem_hexNumeral (h ▸ List.mem_cons_self)
        have hdigit : ∀ d < 16, Nat.digitChar d ≠ '+' := by decide
        exact hdigit d hd
      rw [h] at hread
      simp [readWord, hplus, hread, hlt]

/-- The numeral of a value is one part, too. -/
theorem readPart_hexText (b : PolicyBits) :
    Solid b.hexText.toList ∧ readPart b.hexText.toList = .ok b := by
  have htext : b.hexText.toList = '0' :: 'x' :: Text.hexNumeral b.word.toNat := by
    simp [hexText]
  have hprefix : ∀ c ∈ ['0', 'x'], Text.isBlank c = false ∧ c ≠ '|' := by
    simp only [List.forall_mem_cons]
    exact ⟨by decide +kernel, by decide +kernel, by simp⟩
  have hdigit : ∀ d < 16, Text.isBlank (Nat.digitChar d) = false ∧ Nat.digitChar d ≠ '|' := by
    decide +kernel
  have hplain : ∀ c ∈ ['0', 'x'] ++ Text.hexNumeral b.word.toNat,
      Text.isBlank c = false ∧ c ≠ '|' := by
    intro c hc
    cases List.mem_append.1 hc with
    | inl hfront => exact hprefix c hfront
    | inr hdigits =>
        obtain ⟨d, hd, rfl⟩ := Text.exists_digit_of_mem_hexNumeral hdigits
        exact hdigit d hd
  rw [htext]
  exact ⟨⟨List.cons_ne_nil _ _, hplain⟩, by simp [readPart, readWord_hexNumeral]⟩

/-- Solid parts are read untrimmed. -/
theorem readParts_cons {part : List Char} (h : Solid part) {b : PolicyBits}
    (hread : readPart part = .ok b) (sum : PolicyBits) (parts : List (List Char)) :
    readParts sum (part :: parts) = readParts (sum ∪ b) parts := by
  rw [readParts, h.trim_self, hread]

/-- The names of a value stand for flags that it contains; with the bits that are left they
make it up. -/
theorem readParts_names (value : PolicyBits) (fs : List (String × PolicyBits))
    (hfs : ∀ f ∈ fs, f ∈ flags) {sum remaining : PolicyBits} (h : sum ∪ remaining = value) :
    ∃ named, named ∪ (namesFrom value remaining fs).2 = value ∧ ∀ parts,
      readParts sum ((namesFrom value remaining fs).1.map String.toList ++ parts) =
        readParts named parts := by
  induction fs generalizing sum remaining with
  | nil => exact ⟨sum, h, fun _ => rfl⟩
  | cons f fs ih =>
      obtain ⟨hf, hrest⟩ := List.forall_mem_cons.1 hfs
      obtain ⟨name, flag⟩ := f
      rw [namesFrom]
      split
      · rename_i hnamed
        have hcontains : ∀ i, flag.bit i = true → value.bit i = true :=
          contains_iff.1 (Bool.and_eq_true_iff.1 hnamed).1
        have hsum : (sum ∪ flag) ∪ (remaining \ flag) = value := by
          refine ext_bit fun i => ?_
          have hbit : (sum.bit i || remaining.bit i) = value.bit i := by
            rw [← bit_union, h]
          have hflag := hcontains i
          simp only [bit_union, bit_sdiff]
          cases hi : flag.bit i <;> simp_all
        obtain ⟨hsolid, hread⟩ := readPart_flag hf
        obtain ⟨named, hvalue, hparts⟩ := ih hrest hsum
        refine ⟨named, hvalue, fun parts => ?_⟩
        rw [List.map_cons, List.cons_append, readParts_cons hsolid hread]
        exact hparts parts
      · exact ih hrest h

theorem solid_names (value : PolicyBits) (fs : List (String × PolicyBits))
    (hfs : ∀ f ∈ fs, f ∈ flags) (remaining : PolicyBits) :
    ∀ name ∈ (namesFrom value remaining fs).1, Solid name.toList := by
  induction fs generalizing remaining with
  | nil => exact fun name hname => absurd hname List.not_mem_nil
  | cons f fs ih =>
      obtain ⟨hf, hrest⟩ := List.forall_mem_cons.1 hfs
      obtain ⟨name, flag⟩ := f
      rw [namesFrom]
      split
      · exact List.forall_mem_cons.2 ⟨(readPart_flag hf).1, ih hrest _⟩
      · exact ih hrest _

theorem solid_parts (b : PolicyBits) : ∀ part ∈ b.parts.map String.toList, Solid part := by
  intro part hpart
  obtain ⟨text, htext, rfl⟩ := List.mem_map.1 hpart
  cases List.mem_append.1 htext with
  | inl hname => exact solid_names b flags (fun _ hf => hf) b text hname
  | inr hnumeral =>
      split at hnumeral
      · cases hnumeral
      · obtain rfl := List.mem_singleton.1 hnumeral
        exact (readPart_hexText _).1

/-- The parts of a value are read back. -/
theorem readParts_parts (b : PolicyBits) : readParts ∅ (b.parts.map String.toList) = .ok b := by
  have hstart : ∅ ∪ b = b := ext_bit fun i => by simp
  obtain ⟨named, hvalue, hread⟩ := readParts_names b flags (fun _ hf => hf) hstart
  rw [parts, List.map_append, names, hread]
  split
  · rename_i hnone
    rw [← unnamed, hnone] at hvalue
    have hnamed : named = b := by
      rw [← hvalue]
      exact ext_bit fun i => by simp
    rw [hnamed]
    rfl
  · obtain ⟨hsolid, hnumeral⟩ := readPart_hexText b.unnamed
    rw [List.map_singleton, readParts_cons hsolid hnumeral, unnamed, hvalue]
    rfl

/-- Policy bits are read back from their text. -/
theorem parse_text (b : PolicyBits) : parse b.text = .ok b := by
  have htext : b.text.toList = [] ++ [' ', '|', ' '].intercalate (b.parts.map String.toList) := by
    simp [text]
  have hread := readParts_parts b
  have hsolid := solid_parts b
  cases hparts : b.parts.map String.toList with
  | nil =>
      rw [hparts] at htext hread
      rw [parse, htext]
      exact hread
  | cons part rest =>
      rw [hparts] at htext hread hsolid
      obtain ⟨c, hc⟩ := List.exists_mem_of_ne_nil _ (hsolid part List.mem_cons_self).nonempty
      have hmem : c ∈ b.text.toList := by
        rw [htext]
        cases rest <;> simp [List.intercalate, hc]
      have hkept : Text.trim b.text.toList ≠ [] := by
        intro hnone
        have hblank := Text.isBlank_of_trim_eq_nil hnone c hmem
        rw [((hsolid part List.mem_cons_self).plain c hc).1] at hblank
        cases hblank
      rw [parse, if_neg hkept, htext,
        readParts_cut ∅ spaces_nil (List.cons_ne_nil _ _) hsolid, hread]

end PolicyBits

end AccessPolicy
