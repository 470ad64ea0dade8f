import AccessPolicy.Proofs.OutlineLines
import AccessPolicy.Proofs.ReportStoring

/-!
# AccessPolicy.Proofs.Printing

What is printed can be read.

Values are printed on one line or laid out, with the members of every object in ascending
order, and a line feed behind them.  A reader takes these for white space and for objects in
some order of their own, so it finds what was there to be printed:

* `writes_line`, `writes_page` — both kinds of text write the value;
* `lineFeed_not_mem_compact` — a value on one line takes one line;
* `printed_of_writes` — under a name, a reader finds the member of the name;
* `Decision.storedAs_sorted`, `Report.storedAs_sorted` — with its members in ascending order, a
  stored form is a stored form.
-/

namespace AccessPolicy.Json

/-! ## Laid out -/

/-- More white space in front does not matter. -/
theorem Writes.space {space cs : List Char} {ts : List Token}
    (hspace : ∀ c ∈ space, isSpace c = true) (h : Writes ts cs) : Writes ts (space ++ cs) := by
  cases h with
  | nil hblank => exact .nil (List.forall_mem_append.2 ⟨hspace, hblank⟩)
  | cons hblank ht hrest =>
      rw [← List.append_assoc]
      exact .cons (List.forall_mem_append.2 ⟨hspace, hblank⟩) ht hrest

theorem isSpace_newLine (level : Nat) : ∀ c ∈ Value.newLine level, isSpace c = true := by
  rintro c (_ | ⟨_, hc⟩)
  · rfl
  · rw [List.eq_of_mem_replicate hc]
    rfl

mutual

theorem writes_layOut {ts : List Token} {cs : List Char} (h : Writes ts cs) (level : Nat) :
    (v : Value) → v.IsNatural → Writes (v.tokens ++ ts) (v.layOut level ++ cs)
  | .null, hn => writes_compact h .null hn
  | .bool b, hn => writes_compact h (.bool b) hn
  | .number n, hn => writes_compact h (.number n) hn
  | .string s, hn => writes_compact h (.string s) hn
  | .array [], hn => writes_compact h (.array []) hn
  | .array (v :: vs), hn => by
      have hitems := writes_layOutItems h level vs hn.2
      have hfirst := writes_layOut hitems (level + 1) v hn.1
      have hall := Writes.token .openArray (.space (isSpace_newLine (level + 1)) hfirst)
      simpa [Value.tokens, Value.layOut] using hall
  | .object [], hn => writes_compact h (.object []) hn
  | .object (m :: ms), hn => by
      have hmembers := writes_layOutMembers h level ms hn.2
      have hmember := writes_layOutMember hmembers (level + 1) m hn.1
      have hall := Writes.token .openObject (.space (isSpace_newLine (level + 1)) hmember)
      simpa [Value.tokens, Value.layOut] using hall

theorem writes_layOutItems {ts : List Token} {cs : List Char} (h : Writes ts cs) (level : Nat) :
    (vs : List Value) → allNatural vs →
      Writes (itemTokens vs ++ ts) (Value.layOutItems level vs ++ cs)
  | [], _ => by
      have hend := Writes.space (isSpace_newLine level) (.token .closeArray h)
      simpa [itemTokens, Value.layOutItems] using hend
  | v :: vs, hn => by
      have hitems := writes_layOutItems h level vs hn.2
      have hfirst := writes_layOut hitems (level + 1) v hn.1
      have hall := Writes.token .comma (.space (isSpace_newLine (level + 1)) hfirst)
      simpa [itemTokens, Value.layOutItems] using hall

theorem writes_layOutMember {ts : List Token} {cs : List Char} (h : Writes ts cs) (level : Nat) :
    (m : String × Value) → m.2.IsNatural →
      Writes (memberTokens m ++ ts) (Value.layOutMember level m ++ cs)
  | (key, v), hn => by
      have hblank : ∀ c ∈ [' '], isSpace c = true := by simp [isSpace]
      have hvalue := Writes.space hblank (writes_layOut h level v hn)
      have hall := Writes.token (spellsToken_literal key) (.token .colon hvalue)
      simpa [memberTokens, Value.layOutMember] using hall

theorem writes_layOutMembers {ts : List Token} {cs : List Char} (h : Writes ts cs) (level : Nat) :
    (ms : List (String × Value)) → allMembersNatural ms →
      Writes (membersTokens ms ++ ts) (Value.layOutMembers level ms ++ cs)
  | [], _ => by
      have hend := Writes.space (isSpace_newLine level) (.token .closeObject h)
      simpa [membersTokens, Value.layOutMembers] using hend
  | m :: ms, hn => by
      have hmembers := writes_layOutMembers h level ms hn.2
      have hmember := writes_layOutMember hmembers (level + 1) m hn.1
      have hall := Writes.token .comma (.space (isSpace_newLine (level + 1)) hmember)
      simpa [membersTokens, Value.layOutMembers] using hall

end

theorem writes_lineFeed : Writes [] ['\n'] := .nil (by simp [isSpace])

/-- The text of a value on one line writes it, with the line feed. -/
theorem writes_line {v : Value} (h : v.IsNatural) : v.WrittenAs (v.text ++ "\n") := by
  simpa [Value.WrittenAs, Value.text] using writes_compact writes_lineFeed v h

/-- So does the text of a value laid out. -/
theorem writes_page {v : Value} (h : v.IsNatural) : v.WrittenAs (v.pretty ++ "\n") := by
  simpa [Value.WrittenAs, Value.pretty] using writes_layOut writes_lineFeed 0 v h

/-! ## Lines -/

theorem lineFeed_not_mem_escapeChar (c : Char) : '\n' ∉ escapeChar c := by
  unfold escapeChar
  split
  · rename_i letter hletter
    have hne : letter ≠ '\n' := by
      rintro rfl
      exact absurd (unescapeLetter?_of_escapeLetter? hletter) (by simp [unescapeLetter?])
    simp [hne.symm]
  · rename_i hnone
    split
    · simp [Text.lineFeed_not_mem_hexPadded]
    · rintro (_ | ⟨_, hmem⟩)
      · cases hnone
      · cases hmem

theorem lineFeed_not_mem_literal (s : String) : '\n' ∉ literal s := by
  simp [literal, lineFeed_not_mem_escapeChar]

theorem lineFeed_not_mem_toDigits (n : Nat) : '\n' ∉ Nat.toDigits 10 n := fun hmem =>
  absurd (isDigit_of_mem_toDigits hmem) (by decide)

mutual

/-- A value on one line takes one line. -/
theorem lineFeed_not_mem_compact : (v : Value) → v.IsNatural → '\n' ∉ v.compact
  | .null, _ => by simp [Value.compact]
  | .bool b, _ => by cases b <;> decide
  | .number (.integer n), hn => by
      obtain ⟨m, rfl⟩ := Int.eq_ofNat_of_zero_le hn.1
      rw [compact_natural]
      exact lineFeed_not_mem_toDigits m
  | .string s, _ => lineFeed_not_mem_literal s
  | .array [], _ => by simp [Value.compact]
  | .array (v :: vs), hn => by
      simp [Value.compact, lineFeed_not_mem_compact v hn.1, lineFeed_not_mem_compactItems vs hn.2]
  | .object [], _ => by simp [Value.compact]
  | .object ((key, v) :: ms), hn => by
      simp [Value.compact, Value.compactMember, lineFeed_not_mem_literal key,
        lineFeed_not_mem_compact v hn.1, lineFeed_not_mem_compactMembers ms hn.2]

theorem lineFeed_not_mem_compactItems :
    (vs : List Value) → allNatural vs → '\n' ∉ Value.compactItems vs
  | [], _ => by simp [Value.compactItems]
  | v :: vs, hn => by
      simp [Value.compactItems, lineFeed_not_mem_compact v hn.1,
        lineFeed_not_mem_compactItems vs hn.2]

theorem lineFeed_not_mem_compactMembers :
    (ms : List (String × Value)) → allMembersNatural ms → '\n' ∉ Value.compactMembers ms
  | [], _ => by simp [Value.compactMembers]
  | (key, v) :: ms, hn => by
      simp [Value.compactMembers, Value.compactMember, lineFeed_not_mem_literal key,
        lineFeed_not_mem_compact v hn.1, lineFeed_not_mem_compactMembers ms hn.2]

end

/-! ## Members in ascending order -/

theorem sortedItems_eq_map (vs : List Value) : Value.sortedItems vs = vs.map Value.sorted := by
  induction vs with
  | nil => rfl
  | cons v vs ih => rw [Value.sortedItems, ih, List.map_cons]

theorem sortedMembers_eq_map (ms : List (String × Value)) :
    Value.sortedMembers ms = ms.map fun m => (m.1, m.2.sorted) := by
  induction ms with
  | nil => rfl
  | cons m ms ih => rw [Value.sortedMembers, ih, List.map_cons]

/-- The members are the same in another order, with their own members in order. -/
theorem exists_sorted_object (ms : List (String × Value)) :
    ∃ given, (Value.object ms).sorted = .object given ∧
      given.Perm (ms.map fun m => (m.1, m.2.sorted)) := by
  rw [← sortedMembers_eq_map]
  exact ⟨_, rfl, List.mergeSort_perm _ _⟩

mutual

theorem isNatural_sorted : (v : Value) → v.IsNatural → v.sorted.IsNatural
  | .null, _ => trivial
  | .bool _, _ => trivial
  | .number _, hn => hn
  | .string _, _ => trivial
  | .array vs, hn => allNatural_sortedItems vs hn
  | .object ms, hn => by
      refine allMembersNatural_iff.2 fun m hm => ?_
      have hmembers := allMembersNatural_iff.1 (allMembersNatural_sortedMembers ms hn)
      exact hmembers m ((List.mergeSort_perm _ _).mem_iff.1 hm)

theorem allNatural_sortedItems :
    (vs : List Value) → allNatural vs → allNatural (Value.sortedItems vs)
  | [], _ => trivial
  | v :: vs, hn => ⟨isNatural_sorted v hn.1, allNatural_sortedItems vs hn.2⟩

theorem allMembersNatural_sortedMembers :
    (ms : List (String × Value)) → allMembersNatural ms →
      allMembersNatural (Value.sortedMembers ms)
  | [], _ => trivial
  | (_, v) :: ms, hn => ⟨isNatural_sorted v hn.1, allMembersNatural_sortedMembers ms hn.2⟩

end

/-! ## Reading what was printed -/

/-- In an object whose members have different names, each is found by its name. -/
theorem get?_of_mem {ms : List (String × Value)} (hkeys : (ms.map (·.1)).Nodup) {name : String}
    {v : Value} (h : (name, v) ∈ ms) : (Value.object ms).get? name = some v := by
  have hsome : (ms.find? (·.1 = name)).isSome = true :=
    List.find?_isSome.2 ⟨(name, v), h, decide_eq_true rfl⟩
  obtain ⟨m, hm⟩ := Option.isSome_iff_exists.1 hsome
  have hname : m.1 = name := by simpa using List.find?_some hm
  obtain rfl : m = (name, v) :=
    List.inj_on_of_nodup_map hkeys (List.mem_of_find?_eq_some hm) h hname
  rw [Value.get?, hm]
  rfl

theorem readValue?_of_writes {v : Value} {s : String} (h : v.WrittenAs s) :
    readValue? s = some v := by
  rw [readValue?, readDocument_of_writes h]
  exact v.value?_toDoc

/-- What a printed object has under a name, as it is read. -/
def printed {α : Type} (text name : String) (read : Reader α) : Option α :=
  ((readValue? text).bind (·.get? name)).bind fun v => (read v.toDoc).toOption

/-- A member of an object is read from the text of the object. -/
theorem printed_of_writes {α : Type} {ms : List (String × Value)} {text name : String} {v : Value}
    {read : Reader α} {a : α} (hwrites : (Value.object ms).sorted.WrittenAs text)
    (hkeys : (ms.map (·.1)).Nodup) (hmem : (name, v) ∈ ms) (hread : read v.sorted.toDoc = .ok a) :
    printed text name read = some a := by
  obtain ⟨given, hgiven, hperm⟩ := exists_sorted_object ms
  have hmember : (name, v.sorted) ∈ given :=
    hperm.mem_iff.2 (List.mem_map_of_mem (f := fun m : String × Value => (m.1, m.2.sorted)) hmem)
  have hnames : (given.map (·.1)).Nodup := by
    rw [(hperm.map _).nodup_iff, List.map_map]
    exact hkeys
  rw [hgiven] at hwrites
  rw [printed, readValue?_of_writes hwrites, Option.bind_some, get?_of_mem hnames hmember,
    Option.bind_some, hread]
  rfl

end AccessPolicy.Json

namespace AccessPolicy

open Json

/-! ## Decisions and reports -/

/-- A decision with its members in ascending order is one of its stored forms. -/
theorem Decision.storedAs_sorted (d : Decision) : d.StoredAs d.toValue.sorted :=
  ⟨_, rfl, [], by
    rw [List.append_nil]
    exact List.mergeSort_perm _ _, nofun⟩

/-- A report with its members in ascending order is one of its stored forms. -/
theorem Report.storedAs_sorted (r : Report) : r.StoredAs r.toValue.sorted := by
  refine ⟨r.decision.toValue.sorted, _, r.decision.storedAs_sorted, rfl, [], ?_, nofun⟩
  have hparent : (parentValue r.parent).sorted = parentValue r.parent := by
    cases r.parent <;> rfl
  have hmembers : Value.sortedMembers (r.members r.decision.toValue) =
      r.members r.decision.toValue.sorted := by
    simp only [members, Value.sortedMembers, hparent]
    rfl
  rw [List.append_nil, ← hmembers]
  exact List.mergeSort_perm _ _

end AccessPolicy
