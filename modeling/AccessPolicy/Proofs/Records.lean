import AccessPolicy.Json.Decode
import Mathlib.Data.List.Nodup
import Mathlib.Data.List.Perm.Basic

/-!
# AccessPolicy.Proofs.Records

Records are read from objects with their members in any order, of which those with default
values may be left out.

* `Abridges` — the members of such an object;
* `Schema.read_of_abridges` — the object is read, if the values fit;
* `get_of_abridges`, `getD_of_abridges` — and then every field has its value, whether it was
  given or left out.
-/

namespace AccessPolicy.Json

/-- The members of an object that stands for a record: with those that are left out, they are
the members of the record in some order, and each of those has its default value. -/
def Abridges (members full defaults : List (String × Value)) : Prop :=
  ∃ left, (members ++ left).Perm full ∧ ∀ m ∈ left, m ∈ defaults

theorem Abridges.refl (full defaults : List (String × Value)) : Abridges full full defaults :=
  ⟨[], by rw [List.append_nil], by simp⟩

theorem Abridges.subset {members full defaults : List (String × Value)}
    (h : Abridges members full defaults) : members ⊆ full := by
  obtain ⟨left, hperm, -⟩ := h
  exact fun m hm => hperm.mem_iff.1 (List.mem_append_left _ hm)

theorem Abridges.nodup {members full defaults : List (String × Value)}
    (h : Abridges members full defaults) (hkeys : (full.map (·.1)).Nodup) :
    (members.map (·.1)).Nodup := by
  obtain ⟨left, hperm, -⟩ := h
  have hnodup : ((members ++ left).map (·.1)).Nodup := (hperm.map _).nodup_iff.2 hkeys
  rw [List.map_append] at hnodup
  exact hnodup.of_append_left

/-- The values that members give for fields, the last one first. -/
def givenBy (members : List (String × Value)) : Given :=
  (members.map fun m => (m.1, m.2.toDoc)).reverse

/-! ## Fields -/

theorem lookup_of_mem {given : Given} (hkeys : (given.map (·.1)).Nodup) {name : String} {d : Doc}
    (h : (name, d) ∈ given) : given.lookup name = some d := by
  induction given with
  | nil => cases h
  | cons x given ih =>
      obtain ⟨key, d'⟩ := x
      obtain ⟨hnew, hrest⟩ := List.nodup_cons.1 hkeys
      cases List.mem_cons.1 h with
      | inl heq =>
          cases heq
          simp
      | inr hmem =>
          have hne : (name == key) = false := by
            refine beq_false_of_ne ?_
            rintro rfl
            exact hnew (List.mem_map.2 ⟨_, hmem, rfl⟩)
          rw [List.lookup_cons, hne]
          exact ih hrest hmem

theorem lookup_of_not_mem {given : Given} {name : String} (h : name ∉ given.map (·.1)) :
    given.lookup name = none := by
  have hne : ∀ x ∈ given, (name != x.1) = true := by
    intro x hx
    have hkey : name ≠ x.1 := fun heq => h (List.mem_map.2 ⟨x, hx, heq.symm⟩)
    simpa using hkey
  exact List.lookup_eq_none_iff.2 hne

theorem keys_givenBy (members : List (String × Value)) :
    (givenBy members).map (·.1) = (members.map (·.1)).reverse := by
  simp [givenBy, Function.comp_def]

variable {members full defaults : List (String × Value)}

/-- A field is given its value or left out. -/
theorem Abridges.lookup (h : Abridges members full defaults) (hkeys : (full.map (·.1)).Nodup)
    {name : String} {v : Value} (hmem : (name, v) ∈ full) :
    (givenBy members).lookup name = some v.toDoc ∨
      (givenBy members).lookup name = none ∧ (name, v) ∈ defaults := by
  have hmembers := h.nodup hkeys
  obtain ⟨left, hperm, hleft⟩ := h
  have hnodup : ((members ++ left).map (·.1)).Nodup := (hperm.map _).nodup_iff.2 hkeys
  rw [List.map_append] at hnodup
  have hdisjoint := List.disjoint_of_nodup_append hnodup
  cases List.mem_append.1 (hperm.mem_iff.2 hmem) with
  | inl hgiven =>
      have hdistinct : ((givenBy members).map (·.1)).Nodup := by
        rw [keys_givenBy]
        exact List.nodup_reverse.2 hmembers
      have hvalue : (name, v.toDoc) ∈ givenBy members :=
        List.mem_reverse.2 (List.mem_map.2 ⟨(name, v), hgiven, rfl⟩)
      exact .inl (lookup_of_mem hdistinct hvalue)
  | inr homitted =>
      have hnot : name ∉ (givenBy members).map (·.1) := by
        intro hkey
        rw [keys_givenBy, List.mem_reverse] at hkey
        exact hdisjoint hkey (List.mem_map.2 ⟨_, homitted, rfl⟩)
      exact .inr ⟨lookup_of_not_mem hnot, hleft _ homitted⟩

/-- A field that has no default has its value. -/
theorem get_of_abridges {α : Type} (h : Abridges members full defaults)
    (hkeys : (full.map (·.1)).Nodup) {name : String} {v : Value} {read : Reader α} {a : α}
    (hread : read v.toDoc = .ok a) (hmem : (name, v) ∈ full)
    (hneeded : name ∉ defaults.map (·.1)) : (givenBy members).get name read = .ok a := by
  cases h.lookup hkeys hmem with
  | inl hgiven =>
      rw [Given.get, hgiven]
      exact hread
  | inr homitted => exact absurd (List.mem_map.2 ⟨_, homitted.2, rfl⟩) hneeded

/-- A field that has a default has its value, given or not. -/
theorem getD_of_abridges {α : Type} (h : Abridges members full defaults)
    (hkeys : (full.map (·.1)).Nodup) {name : String} {v : Value} {read : Reader α} {a default : α}
    (hread : read v.toDoc = .ok a) (hmem : (name, v) ∈ full)
    (hdefault : ∀ v', (name, v') ∈ defaults → read v'.toDoc = .ok default) :
    (givenBy members).getD name read default = .ok a := by
  cases h.lookup hkeys hmem with
  | inl hgiven =>
      rw [Given.getD, hgiven]
      exact hread
  | inr homitted =>
      have hsame := hdefault v homitted.2
      rw [Given.getD, homitted.1, ← hsame, hread]

/-! ## Objects -/

/-- Whether a member gives a field of a schema a value that fits. -/
def Schema.Fits (schema : Schema) (m : String × Value) : Prop :=
  ∃ field, schema.field? m.1 = some field ∧ field.check m.2.toDoc = .ok ()

/-- A value that can be read fits. -/
theorem Field.check_of {α : Type} {name : String} {read : Reader α} {optional : Bool} {d : Doc}
    {a : α} (h : read d = .ok a) : (Field.of name read optional).check d = .ok () := by
  simp [Field.of, h, Except.map]

/-- Members of different names are read one after the other. -/
theorem readMembers_of_fits {schema : Schema} (given : Given)
    (hfits : ∀ m ∈ members, schema.Fits m) (hkeys : (members.map (·.1)).Nodup)
    (hnew : ∀ m ∈ members, m.1 ∉ given.map (·.1)) :
    schema.readMembers given (Value.memberDocs members) = .ok (givenBy members ++ given) := by
  induction members generalizing given with
  | nil => rfl
  | cons m members ih =>
      obtain ⟨name, v⟩ := m
      obtain ⟨⟨field, hfield, hcheck⟩, hrest⟩ := List.forall_mem_cons.1 hfits
      obtain ⟨hfirst, hkeys⟩ := List.nodup_cons.1 hkeys
      obtain ⟨hname, hnew⟩ := List.forall_mem_cons.1 hnew
      have hfree : (given.lookup name).isSome = false := by
        rw [lookup_of_not_mem hname]
        rfl
      have hnext : ∀ m ∈ members, m.1 ∉ ((name, v.toDoc) :: given).map (·.1) := by
        intro m hm hmem
        rw [List.map_cons, List.mem_cons] at hmem
        cases hmem with
        | inl heq => exact hfirst (List.mem_map.2 ⟨m, hm, heq⟩)
        | inr hgiven => exact hnew m hm hgiven
      have hmembers := ih ((name, v.toDoc) :: given) hrest hkeys hnext
      have hall : givenBy ((name, v) :: members) ++ given =
          givenBy members ++ (name, v.toDoc) :: given := by simp [givenBy]
      simp only [Value.memberDocs, Schema.readMembers, readKey, bind, Except.bind, hfield, hfree,
        Bool.false_eq_true, if_false, hcheck, hmembers, hall]

/-- An object that stands for a record is read, if all values of the record fit. -/
theorem Schema.read_of_abridges {schema : Schema} (h : Abridges members full defaults)
    (hkeys : (full.map (·.1)).Nodup) (hfits : ∀ m ∈ full, schema.Fits m) :
    schema.read (Value.object members).toDoc = .ok (givenBy members) := by
  have hmembers : ∀ m ∈ members, schema.Fits m := fun m hm => hfits m (h.subset hm)
  have hread := readMembers_of_fits [] hmembers (h.nodup hkeys) (by simp)
  rw [List.append_nil] at hread
  simp only [Value.toDoc, Schema.read, hread, bind, Except.bind, readEnding]
  rfl

end AccessPolicy.Json
