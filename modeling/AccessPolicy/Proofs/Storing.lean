import AccessPolicy.Proofs.Flags
import AccessPolicy.Proofs.Records
import AccessPolicy.Proofs.Spelling
import AccessPolicy.Stored.Manifest

/-!
# AccessPolicy.Proofs.Storing

Manifests are read back from their stored form.

The stored form may be abridged: the members of an object stand in any order, and those with
default values may be left out.  A directive keeps all inherited bits by default, although the
empty set of bits is the default of its type.

* `Directive.ofDoc_of_storedAs`, `Manifest.ofDoc_of_storedAs` — abridged forms are read back;
* `Manifest.roundtrip` — and so are all texts that write them.
-/

namespace AccessPolicy

open Json

/-! ## Single values -/

theorem PolicyBits.ofDoc_toValue (b : PolicyBits) : PolicyBits.ofDoc b.toValue.toDoc = .ok b := by
  simp [PolicyBits.toValue, Value.toDoc, PolicyBits.ofDoc, PolicyBits.parse_text]

/-- A number that fits is read back. -/
theorem readNat_ofNat {n bound : Nat} (h : n < bound) (expected : String) :
    readNat bound expected (Value.ofNat n).toDoc = .ok n := by
  have hrange : (0 : Int) ≤ n ∧ (n : Int) < bound := ⟨Int.natCast_nonneg _, Int.ofNat_lt.2 h⟩
  rw [Value.ofNat, Value.toDoc, readNat, if_pos hrange, Int.toNat_natCast]

theorem readUInt64_ofNat (n : UInt64) : readUInt64 (Value.ofNat n.toNat).toDoc = .ok n := by
  rw [readUInt64, readNat_ofNat n.toNat_lt_size]
  exact congrArg Except.ok n.ofNat_toNat

theorem Mode.ofDoc_name (mode : Mode) : Mode.ofDoc (Value.string mode.name).toDoc = .ok mode := by
  cases mode <;> rfl

theorem PathCase.ofDoc_name (case : PathCase) :
    PathCase.ofDoc (Value.string case.name).toDoc = .ok case := by
  cases case <;> rfl

theorem RuleKind.ofDoc_name (kind : RuleKind) :
    RuleKind.ofDoc (Value.string kind.name).toDoc = .ok kind := by
  cases kind <;> rfl

/-- What is read from the document of a value is read from every text that writes the value. -/
theorem readText_of_writes {α : Type} {read : Reader α} {v : Value} {s : String} {a : α}
    (h : v.WrittenAs s) (hread : read v.toDoc = .ok a) : readText read s = .ok a := by
  rw [readText, readDocument_of_writes h]
  simp only [hread, bind, Except.bind, Bool.false_eq_true, if_false]
  rfl

/-- Items that are read one by one are read as an array. -/
theorem readList_of_forall₂ {α : Type} {read : Reader α} {as : List α} {vs : List Value}
    (h : List.Forall₂ (fun a v => read v.toDoc = .ok a) as vs) :
    readList read (Value.array vs).toDoc = .ok as := by
  have hitems : readItems read (Value.itemDocs vs) = .ok as := by
    induction h with
    | nil => rfl
    | cons hfirst _ ih =>
        simp only [Value.itemDocs, readItems, hfirst, ih, bind, Except.bind]
        rfl
  simp only [Value.toDoc, readList, hitems, bind, Except.bind, readEnding]
  rfl

/-! ## Directives -/

namespace Directive

/-- The members of the stored form of a directive. -/
def members (d : Directive) : List (String × Value) :=
  [("path", .string d.path),
   ("mask", d.rule.mask.toValue),
   ("policy", d.rule.policy.toValue),
   ("kind", .string d.rule.kind.name)]

/-- The members that may be left out. -/
def defaults : List (String × Value) :=
  [("mask", PolicyBits.maskNone.toValue),
   ("policy", PolicyBits.toValue ∅),
   ("kind", .string RuleKind.scope.name)]

/-- A stored form of a directive, abridged or not. -/
def StoredAs (d : Directive) (v : Value) : Prop :=
  ∃ members, v = .object members ∧ Abridges members d.members defaults

theorem fits_members (d : Directive) : ∀ m ∈ d.members, schema.Fits m := by
  simp only [members, List.forall_mem_cons]
  exact ⟨⟨_, rfl, Field.check_of rfl⟩, ⟨_, rfl, Field.check_of (PolicyBits.ofDoc_toValue _)⟩,
    ⟨_, rfl, Field.check_of (PolicyBits.ofDoc_toValue _)⟩,
    ⟨_, rfl, Field.check_of (RuleKind.ofDoc_name _)⟩, by simp⟩

theorem nodup_members (d : Directive) : (d.members.map (·.1)).Nodup := by
  show ["path", "mask", "policy", "kind"].Nodup
  decide

/-- A directive is read from each of its stored forms. -/
theorem ofDoc_of_storedAs {d : Directive} {v : Value} (h : d.StoredAs v) :
    Directive.ofDoc v.toDoc = .ok d := by
  obtain ⟨given, rfl, habridges⟩ := h
  have hkeys := d.nodup_members
  have hread := Schema.read_of_abridges habridges hkeys d.fits_members
  have hpath : (givenBy given).get "path" readString = .ok d.path :=
    get_of_abridges habridges hkeys (v := .string d.path) rfl (by simp [members])
      (by simp [defaults])
  have hmask : (givenBy given).getD "mask" PolicyBits.ofDoc .maskNone = .ok d.rule.mask :=
    getD_of_abridges habridges hkeys d.rule.mask.ofDoc_toValue (by simp [members])
      (by simp [defaults, PolicyBits.ofDoc_toValue])
  have hpolicy : (givenBy given).getD "policy" PolicyBits.ofDoc ∅ = .ok d.rule.policy :=
    getD_of_abridges habridges hkeys d.rule.policy.ofDoc_toValue (by simp [members])
      (by simp [defaults, PolicyBits.ofDoc_toValue])
  have hkind : (givenBy given).getD "kind" RuleKind.ofDoc .scope = .ok d.rule.kind :=
    getD_of_abridges habridges hkeys d.rule.kind.ofDoc_name (by simp [members])
      (by simp [defaults, RuleKind.ofDoc_name])
  simp only [Directive.ofDoc, hread, hpath, hmask, hpolicy, hkind, bind, Except.bind]
  rfl

theorem isNatural_of_storedAs {d : Directive} {v : Value} (h : d.StoredAs v) : v.IsNatural := by
  obtain ⟨given, rfl, habridges⟩ := h
  refine allMembersNatural_iff.2 fun x hx => ?_
  have hmem := habridges.subset hx
  simp only [members, List.mem_cons, List.not_mem_nil, or_false] at hmem
  rcases hmem with rfl | rfl | rfl | rfl <;> exact trivial

end Directive

/-! ## Manifests -/

namespace Manifest

/-- The members of the stored form of a manifest, with its directives in one of theirs. -/
def members (m : Manifest) (directives : List Value) : List (String × Value) :=
  [("pip_id", .ofNat m.settings.pipId.toNat),
   ("mode", .string m.settings.mode.name),
   ("case", .string m.case.name),
   ("report_all_accesses", .bool m.settings.reportAll),
   ("directives", .array directives)]

/-- The members that may be left out. -/
def defaults : List (String × Value) :=
  [("pip_id", .ofNat 0),
   ("mode", .string Mode.strict.name),
   ("case", .string PathCase.platform.name),
   ("report_all_accesses", .bool false),
   ("directives", .array [])]

/-- A stored form of a manifest, abridged or not. -/
def StoredAs (m : Manifest) (v : Value) : Prop :=
  ∃ directives members, List.Forall₂ Directive.StoredAs m.directives directives ∧
    v = .object members ∧ Abridges members (m.members directives) defaults

theorem readList_of_storedAs {ds : List Directive} {vs : List Value}
    (h : List.Forall₂ Directive.StoredAs ds vs) :
    readList Directive.ofDoc (Value.array vs).toDoc = .ok ds :=
  readList_of_forall₂ (h.imp fun _ _ => Directive.ofDoc_of_storedAs)

theorem fits_members {m : Manifest} {directives : List Value}
    (h : List.Forall₂ Directive.StoredAs m.directives directives) :
    ∀ x ∈ m.members directives, schema.Fits x := by
  simp only [members, List.forall_mem_cons]
  exact ⟨⟨_, rfl, Field.check_of (readUInt64_ofNat _)⟩,
    ⟨_, rfl, Field.check_of (Mode.ofDoc_name _)⟩,
    ⟨_, rfl, Field.check_of (PathCase.ofDoc_name _)⟩, ⟨_, rfl, Field.check_of rfl⟩,
    ⟨_, rfl, Field.check_of (readList_of_storedAs h)⟩, by simp⟩

theorem nodup_members (m : Manifest) (directives : List Value) :
    ((m.members directives).map (·.1)).Nodup := by
  show ["pip_id", "mode", "case", "report_all_accesses", "directives"].Nodup
  decide

/-- A manifest is read from each of its stored forms. -/
theorem ofDoc_of_storedAs {m : Manifest} {v : Value} (h : m.StoredAs v) :
    Manifest.ofDoc v.toDoc = .ok m := by
  obtain ⟨directives, given, hdirectives, rfl, habridges⟩ := h
  have hkeys := m.nodup_members directives
  have hread := Schema.read_of_abridges habridges hkeys (fits_members hdirectives)
  have hpipId : (givenBy given).getD "pip_id" readUInt64 0 = .ok m.settings.pipId :=
    getD_of_abridges habridges hkeys (readUInt64_ofNat _) (by simp [members])
      (by simpa [defaults] using readUInt64_ofNat 0)
  have hmode : (givenBy given).getD "mode" Mode.ofDoc .strict = .ok m.settings.mode :=
    getD_of_abridges habridges hkeys (Mode.ofDoc_name _) (by simp [members])
      (by simp [defaults, Mode.ofDoc_name])
  have hcase : (givenBy given).getD "case" PathCase.ofDoc .platform = .ok m.case :=
    getD_of_abridges habridges hkeys (PathCase.ofDoc_name _) (by simp [members])
      (by simp [defaults, PathCase.ofDoc_name])
  have hreportAll : (givenBy given).getD "report_all_accesses" readBool false =
      .ok m.settings.reportAll :=
    getD_of_abridges habridges hkeys (v := .bool m.settings.reportAll) rfl (by simp [members])
      (by simp [defaults, Value.toDoc, readBool])
  have hlist : (givenBy given).getD "directives" (readList Directive.ofDoc) [] =
      .ok m.directives :=
    getD_of_abridges habridges hkeys (readList_of_storedAs hdirectives) (by simp [members])
      (by simp [defaults, readList_of_storedAs .nil])
  simp only [Manifest.ofDoc, hread, hpipId, hmode, hcase, hreportAll, hlist, bind, Except.bind]
  rfl

/-! ## Texts -/

/-- The full stored form of a manifest is one of its stored forms. -/
theorem storedAs_toValue (m : Manifest) : m.StoredAs m.toValue := by
  have hdirective (d : Directive) : d.StoredAs d.toValue := ⟨d.members, rfl, .refl _ _⟩
  have hdirectives : List.Forall₂ Directive.StoredAs m.directives
      (m.directives.map Directive.toValue) := by
    rw [List.forall₂_map_right_iff]
    exact List.forall₂_same.2 fun d _ => hdirective d
  exact ⟨_, _, hdirectives, rfl, .refl _ _⟩

theorem allNatural_of_storedAs {ds : List Directive} {vs : List Value}
    (h : List.Forall₂ Directive.StoredAs ds vs) : allNatural vs := by
  induction h with
  | nil => exact trivial
  | cons hfirst _ ih => exact ⟨Directive.isNatural_of_storedAs hfirst, ih⟩

/-- Stored forms can be written: all of their numbers are natural, of 64 bits. -/
theorem isNatural_of_storedAs {m : Manifest} {v : Value} (h : m.StoredAs v) : v.IsNatural := by
  obtain ⟨directives, given, hdirectives, rfl, habridges⟩ := h
  have hlist : allNatural directives := allNatural_of_storedAs hdirectives
  have hpipId : (Value.ofNat m.settings.pipId.toNat).IsNatural :=
    ⟨Int.natCast_nonneg _, Int.ofNat_lt.2 m.settings.pipId.toNat_lt_size⟩
  refine allMembersNatural_iff.2 fun x hx => ?_
  have hmem := habridges.subset hx
  simp only [members, List.mem_cons, List.not_mem_nil, or_false] at hmem
  rcases hmem with rfl | rfl | rfl | rfl | rfl
  · exact hpipId
  · exact trivial
  · exact trivial
  · exact trivial
  · exact hlist

/-- **Round trip**: a manifest is read from every text that writes one of its stored forms, in
whatever order its members stand, whichever of those with default values are left out, and
however it is spelled.  The full form is one of these, and each of them can be written. -/
theorem roundtrip (m : Manifest) :
    (∀ v s, m.StoredAs v → v.WrittenAs s → Manifest.ofText s = .ok m) ∧
      m.StoredAs m.toValue ∧ ∀ v, m.StoredAs v → v.WrittenAs v.text := by
  refine ⟨fun v s hstored hwrites => ?_, m.storedAs_toValue, fun v hstored => ?_⟩
  · rw [Manifest.ofText, readText, readDocument_of_writes hwrites]
    simp only [ofDoc_of_storedAs hstored, bind, Except.bind, Bool.false_eq_true, if_false]
    rfl
  · exact writes_text (isNatural_of_storedAs hstored)

/-- A manifest that leaves most to default. -/
def sampleManifest : Manifest :=
  ⟨⟨0, .permissive, false⟩, .platform, [⟨"/", ⟨.maskNone, ∅, .scope⟩⟩]⟩

/-- What it does not leave to default, with the directives first. -/
def sampleValue : Value :=
  .object [("directives", .array [.object [("path", .string "/")]]), ("mode", .string "permissive")]

/-- Its text, in which the slash is written by its code unit. -/
def sampleText : String :=
  "\x7b \"directives\": [\x7b\"path\": \"\\u002F\"\x7d],\n  \"mode\": \"permissive\" \x7d\n"

/-- The sample is read from this text, and from the one that has it on one line. -/
theorem roundtrip_sample :
    sampleManifest.StoredAs sampleValue ∧ sampleValue.WrittenAs sampleText ∧
      Manifest.ofText sampleText = .ok sampleManifest ∧
      Manifest.ofText sampleValue.text = .ok sampleManifest := by
  have hdirective : Directive.StoredAs ⟨"/", ⟨.maskNone, ∅, .scope⟩⟩
      (.object [("path", .string "/")]) :=
    ⟨_, rfl, [("mask", PolicyBits.maskNone.toValue), ("policy", PolicyBits.toValue ∅),
      ("kind", .string "scope")], .refl _, by simp [Directive.defaults, RuleKind.name]⟩
  have hstored : sampleManifest.StoredAs sampleValue := by
    refine ⟨[.object [("path", .string "/")]], _, .cons hdirective .nil, rfl,
      [("pip_id", .ofNat 0), ("case", .string PathCase.platform.name),
        ("report_all_accesses", .bool false)], ?_, by simp [defaults]⟩
    exact ((List.Perm.swap _ _ _).cons _).trans (List.perm_append_singleton _ _).symm
  have hwritten : sampleValue.WrittenAs sampleText := by
    -- The text is put together from its end.
    have hspace : ∀ c ∈ [' '], isSpace c = true := by simp [isSpace]
    have hlines : ∀ c ∈ ['\n', ' ', ' '], isSpace c = true := by simp [isSpace]
    have hslash : Spells "/".toList ['\\', 'u', '0', '0', '2', 'F'] :=
      .cons (c := '/') (.unit (by decide)) .nil
    have hend : Writes [] ['\n'] := .nil (by simp [isSpace])
    have hmode := Writes.cons hspace (spellsToken_literal "permissive")
      (.cons hspace .closeObject hend)
    have hmembers := Writes.token .comma
      (.cons hlines (spellsToken_literal "mode") (.token .colon hmode))
    have hpath := Writes.cons hspace (.string hslash)
      (.token .closeObject (.token .closeArray hmembers))
    have hlist := Writes.cons hspace .openArray
      (.token .openObject (.token (spellsToken_literal "path") (.token .colon hpath)))
    have hwrites := Writes.token .openObject
      (.cons hspace (spellsToken_literal "directives") (.token .colon hlist))
    exact hwrites
  obtain ⟨hread, -, hwrite⟩ := roundtrip sampleManifest
  exact ⟨hstored, hwritten, hread _ _ hstored hwritten, hread _ _ hstored (hwrite _ hstored)⟩

end Manifest

end AccessPolicy
