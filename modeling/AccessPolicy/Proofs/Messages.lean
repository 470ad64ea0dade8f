import AccessPolicy.Proofs.Building
import AccessPolicy.Stored.Manifest
import AccessPolicy.Text.Utf8

/-!
# AccessPolicy.Proofs.Messages

Which messages can hold a NUL.

A message is put together from fixed texts, numbers, and parts of what was read:

1. a text that stands between quotes shows a NUL by its backslash form;
2. a path that stands as it is has been checked for NULs before;
3. the name of an alternative that is not known stands as it is.

So a NUL can come into a message only by the third rule, if none is in the words in which
flaws of texts and places in them are put.

* `nulFree_quoted` — a quoted text is free of NULs;
* `nulFree_of_components`, `nulFree_of_ofDirectives` — so is the message of a path that
  cannot be split, and of directives that describe no tree;
* `escaped_data` — of what was read of a document, only such a name stands as it is;
* `escapes_read` — a record escapes NULs as its fields do;
* `escapes_ofText` — the message of a text that is no manifest holds a NUL iff it names
  an alternative with a NUL in it.
-/

namespace AccessPolicy

namespace Text

/-! ## Texts -/

/-- A text without NULs. -/
def NulFree (s : String) : Prop := '\x00' ∉ s.toList

instance (s : String) : Decidable (NulFree s) := inferInstanceAs (Decidable (¬ _))

@[simp] theorem nulFree_append {s t : String} : NulFree (s ++ t) ↔ NulFree s ∧ NulFree t := by
  simp [NulFree, not_or]

@[simp] theorem nulFree_ofList {cs : List Char} : NulFree (String.ofList cs) ↔ '\x00' ∉ cs := by
  simp [NulFree]

theorem nul_ne_digitChar : (n : Nat) → '\x00' ≠ Nat.digitChar n
  | 0 | 1 | 2 | 3 | 4 | 5 | 6 | 7 | 8 | 9 | 10 | 11 | 12 | 13 | 14 | 15 | _ + 16 => by
      simp [Nat.digitChar]

/-- No digit is NUL. -/
theorem nul_not_mem_toDigits {base : Nat} (h : 1 < base) (n : Nat) :
    '\x00' ∉ Nat.toDigits base n := by
  induction n using Nat.strongRecOn with
  | ind n ih =>
      by_cases hn : n < base
      · rw [Nat.toDigits_of_lt_base hn, List.mem_singleton]
        exact nul_ne_digitChar n
      · have hbase : base ≤ n := Nat.le_of_not_lt hn
        rw [Nat.toDigits_of_base_le h hbase, List.mem_append, List.mem_singleton, not_or]
        exact ⟨ih _ (Nat.div_lt_self (by omega) h), nul_ne_digitChar _⟩

@[simp] theorem nulFree_repr (n : Nat) : NulFree n.repr := by
  rw [← Nat.toString_eq_repr, Nat.toString_eq_ofList_toDigits, nulFree_ofList]
  exact nul_not_mem_toDigits (by decide) n

@[simp] theorem nulFree_repr_int (n : Int) : NulFree n.repr := by
  rw [Int.repr_eq_if]
  split
  · exact nulFree_repr _
  · rw [nulFree_append]
    exact ⟨by decide, nulFree_repr _⟩

/-- Laying out digits adds a point, a sign and more digits. -/
theorem nul_not_mem_layOut {ds : List Char} (h : '\x00' ∉ ds) (power : Int) :
    '\x00' ∉ layOut ds power := by
  have htake (n : Nat) : '\x00' ∉ ds.take n := fun hmem => h (List.mem_of_mem_take hmem)
  have hdrop (n : Nat) : '\x00' ∉ ds.drop n := fun hmem => h (List.mem_of_mem_drop hmem)
  have hpower : '\x00' ∉ Nat.toDigits 10 power.natAbs := nul_not_mem_toDigits (by decide) _
  simp only [layOut]
  split
  · simp [h]
  · split
    · split <;> simp [htake, hdrop]
    · split <;> split <;> simp_all

theorem nulFree_floatText (x : Float) : NulFree (floatText x) := by
  have hdigits (n : Nat) : '\x00' ∉ dropTrailingZeros (Nat.toDigits 10 n) := by
    intro h
    have hkept := (List.dropWhile_sublist _).mem (List.mem_reverse.1 h)
    exact nul_not_mem_toDigits (by decide) n (List.mem_reverse.1 hkept)
  simp only [floatText]
  split
  · rw [nulFree_ofList]
    split <;> decide
  · rw [nulFree_ofList, List.mem_append, not_or]
    refine ⟨?_, nul_not_mem_layOut (hdigits _) _⟩
    split <;> decide

/-- How a character is written between quotes shows no NUL. -/
theorem nul_not_mem_quoteChar (c : Char) : '\x00' ∉ quoteChar c := by
  unfold quoteChar
  repeat' split
  any_goals decide
  · rename_i hnul _ _ _ _ _ _
    rw [List.mem_singleton]
    exact Ne.symm hnul
  · simp only [List.mem_append, not_or]
    exact ⟨⟨by decide, nul_not_mem_toDigits (by decide) _⟩, by decide⟩

@[simp] theorem nulFree_quoted (s : String) : NulFree (quoted s) := by
  rw [NulFree, toList_quoted, List.mem_append, List.mem_cons, List.mem_flatMap]
  rintro ((hquote | ⟨c, -, hc⟩) | hquote)
  · exact absurd hquote (by decide)
  · exact nul_not_mem_quoteChar c hc
  · exact absurd hquote (by decide)

theorem Utf8Error.nulFree_message (e : Utf8Error) : NulFree e.message := by
  unfold message
  split
  · simp only [nulFree_append, Nat.toString_eq_repr, nulFree_repr, and_true]
    decide
  · simp only [nulFree_append, Nat.toString_eq_repr, nulFree_repr, and_true]
    decide

end Text

open Text

/-! ## Paths and trees -/

/-- A path is looked through for NULs before it is quoted as it stands. -/
theorem Path.nulFree_of_components {path : String} {e : PathError}
    (h : components path = .error e) : NulFree e.message := by
  unfold components at h
  dsimp only at h
  by_cases hempty : path.toList = []
  · rw [if_pos hempty] at h
    obtain rfl := Except.error.inj h
    decide
  by_cases hnul : '\x00' ∈ path.toList
  · rw [if_neg hempty, if_pos hnul] at h
    obtain rfl := Except.error.inj h
    exact nulFree_append.2 ⟨by decide, nulFree_quoted path⟩
  have hpath : NulFree path := hnul
  rw [if_neg hempty, if_neg hnul] at h
  split at h
  · obtain rfl := Except.error.inj h
    exact nulFree_append.2 ⟨by decide, hpath⟩
  cases hdots : (runs path.toList).find? isDots with
  | some name =>
      rw [hdots] at h
      obtain rfl := Except.error.inj h
      have hcomponent : NulFree ("non-canonical component " ++ quoted (String.ofList name)) :=
        nulFree_append.2 ⟨by decide, nulFree_quoted _⟩
      exact nulFree_append.2 ⟨nulFree_append.2 ⟨hcomponent, by decide⟩, hpath⟩
  | none =>
      simp only [hdots] at h
      split at h
      · obtain rfl := Except.error.inj h
        decide
      · cases h

/-- A directive is refused for its path, or because there is no room. -/
theorem Directive.Defect.nulFree {case : PathCase} {before : List Directive} {d : Directive}
    {e : BuildError} (h : Defect case before d e) : NulFree e.message := by
  cases h with
  | @malformed source h =>
      show NulFree ("directive " ++ before.length.repr ++ " has a malformed path: " ++
        source.message)
      simp only [nulFree_append, nulFree_repr, Path.nulFree_of_components h, and_true]
      decide
  | noRoom =>
      show NulFree ("manifest exceeds " ++ ((maxNodes - 1).repr ++ " scope nodes"))
      simp only [nulFree_append, nulFree_repr, true_and]
      decide

theorem ScopeTree.nulFree_of_ofDirectives {case : PathCase} {ds : List Directive} {e : BuildError}
    (h : ofDirectives case ds = .error e) : NulFree e.message := by
  rcases cases_of_ofDirectives_eq_error h with ⟨rfl, -⟩ | ⟨before, d, after, -, -, hd⟩
  · decide
  · exact hd.nulFree

namespace Json

/-! ## Failures to read a document -/

/-- A failure that names, as an alternative, a text with a NUL in it. -/
def Failure.NamesNul : Failure → Prop
  | .data (.unknownVariant name _) => ¬ NulFree name
  | _ => False

/-- Words without NULs. -/
structure Wording.NulFree (words : Wording) : Prop where
  flaw : ∀ text flaw, Text.NulFree (words.flaw text flaw)
  place : ∀ text, Text.NulFree (words.place text)

theorem Wording.nulFree_plain : Wording.plain.NulFree where
  flaw _ flaw := by
    cases flaw with
    | malformed => exact (show Text.NulFree "malformed text" by decide)
    | unfinished => exact (show Text.NulFree "unfinished text" by decide)
  place _ := show Text.NulFree "" by decide

/-- A failure whose message, in words without NULs, has a NUL in it iff it is one that names such
a text. -/
def Failure.Escaped (f : Failure) : Prop :=
  ∀ words : Wording, words.NulFree → ∀ text, NulFree (f.message words text) ↔ ¬ f.NamesNul

theorem nulFree_describe (found : Found) : NulFree found.describe := by
  cases found with
  | null => decide
  | bool b => cases b <;> decide
  | number n =>
      cases n with
      | integer n =>
          exact nulFree_append.2 ⟨nulFree_append.2 ⟨by decide, nulFree_repr_int n⟩, by decide⟩
      | float x =>
          exact nulFree_append.2 ⟨nulFree_append.2 ⟨by decide, nulFree_floatText x⟩, by decide⟩
  | string s => exact nulFree_append.2 ⟨by decide, nulFree_quoted s⟩
  | sequence => decide
  | map => decide

theorem escaped_flaw (flaw : Flaw) : (Failure.flaw flaw).Escaped := fun _ hwords text =>
  iff_of_true (hwords.flaw text flaw) not_false

/-- A complaint is escaped if its own words have a NUL in them just when it names one. -/
theorem escaped_of_iff {e : DataError} (h : NulFree e.message ↔ ¬ (Failure.data e).NamesNul) :
    (Failure.data e).Escaped := by
  intro words hwords text
  rw [Failure.message, nulFree_append, and_iff_left (hwords.place text), h]

/-- A complaint that is free of NULs names none. -/
theorem escaped_of_nulFree {e : DataError} (h : NulFree e.message) : (Failure.data e).Escaped := by
  refine escaped_of_iff (iff_of_true h ?_)
  unfold Failure.NamesNul
  split
  · rename_i heq
    obtain rfl := Failure.data.inj heq
    have hname : NulFree ("unknown variant `" ++ _ ++ "`, ") := (nulFree_append.1 h).1
    exact not_not_intro (nulFree_append.1 (nulFree_append.1 hname).1).2
  · exact not_false

/-- The texts that a complaint is given, apart from what was read, are free of NULs. -/
def DataError.GivenNulFree : DataError → Prop
  | .invalidType _ expected => NulFree expected
  | .invalidValue _ expected => NulFree expected
  | .unknownVariant _ known => NulFree (alternatives known)
  | .missingField name => NulFree name
  | .duplicateField name => NulFree name
  | .invalidLength _ expected => NulFree expected
  | .custom message => NulFree message

/-- Of what was read, only a name that is not known stands in a message as it is. -/
theorem escaped_data {e : DataError} (h : e.GivenNulFree) : (Failure.data e).Escaped := by
  cases e with
  | invalidType found expected =>
      refine escaped_of_nulFree ?_
      change NulFree ("invalid type: " ++ found.describe ++ ", expected " ++ expected)
      simp only [nulFree_append, nulFree_describe, show NulFree expected from h, and_true]
      decide
  | invalidValue found expected =>
      refine escaped_of_nulFree ?_
      change NulFree ("invalid value: " ++ found.describe ++ ", expected " ++ expected)
      simp only [nulFree_append, nulFree_describe, show NulFree expected from h, and_true]
      decide
  | unknownVariant name known =>
      have hknown : NulFree (alternatives known) := h
      have hmessage : NulFree ("unknown variant `" ++ name ++ "`, " ++ alternatives known) ↔
          NulFree name := by
        simp only [nulFree_append, hknown, and_true]
        exact ⟨fun hall => hall.1.2, fun hname => ⟨⟨by decide, hname⟩, by decide⟩⟩
      exact escaped_of_iff (hmessage.trans Decidable.not_not.symm)
  | missingField name =>
      refine escaped_of_nulFree ?_
      change NulFree ("missing field `" ++ name ++ "`")
      simp only [nulFree_append, show NulFree name from h, and_true]
      decide
  | duplicateField name =>
      refine escaped_of_nulFree ?_
      change NulFree ("duplicate field `" ++ name ++ "`")
      simp only [nulFree_append, show NulFree name from h, and_true]
      decide
  | invalidLength length expected =>
      refine escaped_of_nulFree ?_
      change NulFree ("invalid length " ++ length.repr ++ ", expected " ++ expected)
      simp only [nulFree_append, nulFree_repr, show NulFree expected from h, and_true]
      decide
  | custom message => exact escaped_of_nulFree h

/-! ## Readers -/

/-- Whatever fails here, the failure is escaped. -/
def Escapes (x : Except Failure α) : Prop := ∀ f, x = .error f → f.Escaped

theorem escapes_ok (a : α) : Escapes (.ok a) := nofun

theorem escapes_error {f : Failure} (h : f.Escaped) : Escapes (.error f : Except Failure α) := by
  rintro _ ⟨⟩
  exact h

theorem escapes_flaw (flaw : Flaw) : Escapes (.error (.flaw flaw) : Except Failure α) :=
  escapes_error (escaped_flaw flaw)

theorem Escapes.bind {x : Except Failure α} {g : α → Except Failure β} (hx : Escapes x)
    (hg : ∀ a, Escapes (g a)) : Escapes (x >>= g) := by
  cases x with
  | error f => exact escapes_error (hx f rfl)
  | ok a => exact hg a

theorem Escapes.map {x : Except Failure α} (hx : Escapes x) (g : α → β) : Escapes (x.map g) := by
  cases x with
  | error f => exact escapes_error (hx f rfl)
  | ok a => exact escapes_ok _

theorem escaped_mismatch {expected : String} (h : NulFree expected) (d : Doc) :
    (mismatch expected d).Escaped := by
  cases d with
  | null => exact escaped_data h
  | bool b => exact escaped_data h
  | number n =>
      cases n with
      | none => exact escaped_flaw _
      | some n => exact escaped_data h
  | string s =>
      cases s with
      | none => exact escaped_flaw _
      | some s => exact escaped_data h
  | array items ending => exact escaped_data h
  | object members ending => exact escaped_data h
  | broken b => exact escaped_flaw _

theorem escapes_readEnding (ending : Ending) : Escapes (readEnding ending) := by
  cases ending with
  | closed => exact escapes_ok ()
  | cut flaw => exact escapes_flaw flaw

theorem escapes_skip (d : Doc) : Escapes (skip d) := by
  unfold skip
  split
  · exact escapes_flaw _
  · exact escapes_readEnding _
  · exact escapes_readEnding _
  · exact escapes_ok ()

theorem escapes_readKey (key : Key) : Escapes (readKey key) := by
  unfold readKey
  split
  · exact escapes_ok _
  all_goals exact escapes_flaw _

theorem escapes_readBool (d : Doc) : Escapes (readBool d) := by
  unfold readBool
  split
  · exact escapes_ok _
  · exact escapes_error (escaped_mismatch (by decide) _)

theorem escapes_readNat (bound : Nat) {expected : String} (h : NulFree expected) (d : Doc) :
    Escapes (readNat bound expected d) := by
  unfold readNat
  split
  · split
    · exact escapes_ok _
    · exact escapes_error (escaped_data h)
  · exact escapes_error (escaped_mismatch h _)

theorem escapes_readString (d : Doc) : Escapes (readString d) := by
  unfold readString
  split
  · exact escapes_ok _
  · exact escapes_error (escaped_mismatch (by decide) _)

theorem escapes_readItems {read : Reader α} (h : ∀ d, Escapes (read d)) (ds : List Doc) :
    Escapes (readItems read ds) := by
  induction ds with
  | nil => exact escapes_ok []
  | cons d ds ih => exact (h d).bind fun _ => ih.bind fun _ => escapes_ok _

theorem escapes_readList {read : Reader α} (h : ∀ d, Escapes (read d)) (d : Doc) :
    Escapes (readList read d) := by
  unfold readList
  split
  · exact (escapes_readItems h _).bind fun _ => (escapes_readEnding _).bind fun _ => escapes_ok _
  · exact escapes_error (escaped_mismatch (by decide) _)

theorem escapes_variantNamed {known : List (String × α)}
    (h : NulFree (alternatives (known.map (·.1)))) (name : String) :
    Escapes (variantNamed known name) := by
  unfold variantNamed
  split
  · exact escapes_ok _
  · exact escapes_error (escaped_data h)

/-- A name among alternatives that are free of NULs. -/
theorem escapes_readVariant {known : List (String × α)}
    (h : NulFree (alternatives (known.map (·.1)))) (d : Doc) : Escapes (readVariant known d) := by
  have hunit (value : Doc) : Escapes (readUnit value) := by
    unfold readUnit
    split
    · exact escapes_ok ()
    · exact escapes_error (escaped_mismatch (by decide) _)
  unfold readVariant
  split
  · exact escapes_variantNamed h _
  · exact (escapes_readEnding _).bind fun _ => escapes_flaw _
  · refine (escapes_readKey _).bind fun name => (escapes_variantNamed h name).bind fun a =>
      (hunit _).bind fun _ => ?_
    split
    · exact escapes_flaw _
    · exact (escapes_readEnding _).bind fun _ => escapes_ok a
  · exact escapes_flaw _
  · exact escapes_flaw _

/-! ## Records -/

namespace Schema

/-- A record whose title and field names are free of NULs, and whose fields escape. -/
structure Escapes (schema : Schema) : Prop where
  title : NulFree schema.title
  names : ∀ field ∈ schema.fields, NulFree field.name
  checks : ∀ field ∈ schema.fields, ∀ d, Json.Escapes (field.check d)

variable {schema : Schema}

theorem escapes_readMembers (h : schema.Escapes) (given : Given) (members : List (Key × Doc)) :
    Json.Escapes (schema.readMembers given members) := by
  induction members generalizing given with
  | nil => exact escapes_ok given
  | cons m rest ih =>
      obtain ⟨key, d⟩ := m
      refine (escapes_readKey key).bind fun name => ?_
      cases hfield : schema.field? name with
      | none => exact (escapes_skip d).bind fun _ => ih given
      | some field =>
          have hmem : field ∈ schema.fields := List.mem_of_find?_eq_some hfield
          have hname : field.name = name := by simpa using List.find?_some hfield
          dsimp only
          split
          · exact escapes_error (escaped_data (hname ▸ h.names field hmem))
          · exact (h.checks field hmem d).bind fun _ => ih _

theorem nulFree_arrayText (h : schema.Escapes) : NulFree schema.arrayText := by
  simp only [arrayText, nulFree_append, Nat.toString_eq_repr, nulFree_repr, h.title, and_true]
  decide

theorem escapes_readMissing (h : schema.Escapes) (index : Nat) (fields : List Field) :
    Json.Escapes (schema.readMissing index fields) := by
  induction fields generalizing index with
  | nil => exact escapes_ok ()
  | cons field rest ih =>
      unfold readMissing
      split
      · exact ih _
      · exact escapes_error (escaped_data (nulFree_arrayText h))

theorem escapes_readPositions (h : schema.Escapes) (index : Nat) (ending : Ending)
    {fields : List Field} (hfields : ∀ field ∈ fields, field ∈ schema.fields) (ds : List Doc) :
    Json.Escapes (schema.readPositions index ending fields ds) := by
  induction ds generalizing index fields with
  | nil =>
      cases fields with
      | nil => exact (escapes_readEnding ending).bind fun _ => escapes_ok []
      | cons field rest =>
          exact (escapes_readEnding ending).bind fun _ =>
            (escapes_readMissing h index _).bind fun _ => escapes_ok []
  | cons d ds ih =>
      cases fields with
      | nil => exact escapes_flaw _
      | cons field rest =>
          obtain ⟨hfield, hrest⟩ := List.forall_mem_cons.1 hfields
          exact (h.checks field hfield d).bind fun _ => (ih _ hrest).bind fun _ => escapes_ok _

/-- A record escapes NULs as its fields do. -/
theorem escapes_read (h : schema.Escapes) (d : Doc) : Json.Escapes (schema.read d) := by
  unfold read
  split
  · exact (escapes_readMembers h [] _).bind fun given =>
      (escapes_readEnding _).bind fun _ => escapes_ok given
  · exact escapes_readPositions h 0 _ (fun _ hfield => hfield) _
  · refine escapes_error (escaped_mismatch ?_ _)
    exact nulFree_append.2 ⟨by decide, h.title⟩

end Schema

theorem escapes_get {name : String} (hname : NulFree name) {read : Reader α}
    (h : ∀ d, Escapes (read d)) (given : Given) : Escapes (given.get name read) := by
  unfold Given.get
  split
  · exact h _
  · exact escapes_error (escaped_data hname)

theorem escapes_getD {read : Reader α} (h : ∀ d, Escapes (read d)) (given : Given) (name : String)
    (default : α) : Escapes (given.getD name read default) := by
  unfold Given.getD
  split
  · exact h _
  · exact escapes_ok default

theorem escapes_readText {read : Reader α} (h : ∀ d, Escapes (read d)) (s : String) :
    Escapes (readText read s) := by
  refine (h _).bind fun a => ?_
  split
  · exact escapes_flaw _
  · exact escapes_ok a

end Json

open Json

/-! ## Manifests -/

theorem PolicyBits.escapes_ofDoc (d : Doc) : Escapes (ofDoc d) := by
  unfold ofDoc
  split
  · split
    · exact escapes_ok _
    · rename_i e _
      have hmessage : NulFree e.message := by cases e <;> decide
      exact escapes_error (escaped_data hmessage)
  · exact escapes_error (escaped_mismatch (by decide) _)

namespace Directive

theorem escapes_schema : schema.Escapes where
  title := by decide
  names := by decide
  checks := by
    intro field hfield d
    simp only [schema, List.mem_cons, List.not_mem_nil, or_false] at hfield
    rcases hfield with rfl | rfl | rfl | rfl
    · exact (escapes_readString d).map _
    · exact (PolicyBits.escapes_ofDoc d).map _
    · exact (PolicyBits.escapes_ofDoc d).map _
    · exact (escapes_readVariant (by decide) d).map _

theorem escapes_ofDoc (d : Doc) : Escapes (ofDoc d) := by
  refine (Schema.escapes_read escapes_schema d).bind fun given => ?_
  refine (escapes_get (by decide) escapes_readString given).bind fun _ => ?_
  refine (escapes_getD PolicyBits.escapes_ofDoc given _ _).bind fun _ => ?_
  refine (escapes_getD PolicyBits.escapes_ofDoc given _ _).bind fun _ => ?_
  exact (escapes_getD (escapes_readVariant (by decide)) given _ _).bind fun _ => escapes_ok _

end Directive

namespace Manifest

theorem escapes_readUInt64 (d : Doc) : Escapes (readUInt64 d) :=
  (escapes_readNat _ (by decide) d).map _

theorem escapes_schema : schema.Escapes where
  title := by decide
  names := by decide
  checks := by
    intro field hfield d
    simp only [schema, List.mem_cons, List.not_mem_nil, or_false] at hfield
    rcases hfield with rfl | rfl | rfl | rfl | rfl
    · exact (escapes_readUInt64 d).map _
    · exact (escapes_readVariant (by decide) d).map _
    · exact (escapes_readVariant (by decide) d).map _
    · exact (escapes_readBool d).map _
    · exact (escapes_readList Directive.escapes_ofDoc d).map _

theorem escapes_ofDoc (d : Doc) : Escapes (ofDoc d) := by
  refine (Schema.escapes_read escapes_schema d).bind fun given => ?_
  refine (escapes_getD escapes_readUInt64 given _ _).bind fun _ => ?_
  refine (escapes_getD (escapes_readVariant (by decide)) given _ _).bind fun _ => ?_
  refine (escapes_getD (escapes_readVariant (by decide)) given _ _).bind fun _ => ?_
  refine (escapes_getD escapes_readBool given _ _).bind fun _ => ?_
  exact (escapes_getD (escapes_readList Directive.escapes_ofDoc) given _ _).bind fun _ =>
    escapes_ok _

/-- The message of a text that is no manifest holds a NUL iff it names an alternative
with a NUL in it. -/
theorem escapes_ofText (s : String) : Escapes (ofText s) := escapes_readText escapes_ofDoc s

end Manifest

end AccessPolicy
