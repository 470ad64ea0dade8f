import AccessPolicy.Interceptor
import AccessPolicy.Proofs.Messages

/-!
# AccessPolicy.Proofs.Failures

What an interceptor is told when a call of it fails.

The message that a failure leaves behind is a text that ends at the first NUL, so one
that has a NUL in it cannot be left behind.  There is a single way to such a message:
a manifest in which, where an alternative is due, there is a name with a NUL in it, by
way of its escape.

* `loadBytes_eq_error` — what is wrong with a manifest that is not loaded;
* `request_eq_error` — what is wrong with a request that is not decided;
* `failure_leaves_message` — the message of a failure stays, unless it is of that kind.
-/

namespace AccessPolicy

open Text

/-! ## What can be wrong -/

/-- What is wrong with a manifest that is handed over, and how that is put. -/
inductive ManifestFault (words : Json.Wording) : Option (List UInt8) → String → Prop where
  | null : ManifestFault words none "manifest_json is null"
  | encoding {bs : List UInt8} {e : Utf8Error} (h : decodeUtf8 (textBytes bs) = .error e) :
      ManifestFault words (some bs) ("invalid UTF-8 in manifest: " ++ e.message)
  | document {bs : List UInt8} {text : String} {failure : Json.Failure}
      (htext : decodeUtf8 (textBytes bs) = .ok text) (h : Manifest.ofText text = .error failure) :
      ManifestFault words (some bs)
        ("failed to load manifest: " ++
          ("invalid manifest document: " ++ failure.message words text))
  | directives {bs : List UInt8} {text : String} {m : Manifest} {e : BuildError}
      (htext : decodeUtf8 (textBytes bs) = .ok text) (hm : Manifest.ofText text = .ok m)
      (h : m.tree = .error e) :
      ManifestFault words (some bs) ("failed to load manifest: " ++ e.message)

/-- A manifest that is refused for the name of an alternative with a NUL in it. -/
def ManifestNamesNul (manifest : Option (List UInt8)) : Prop :=
  ∃ bs text failure, manifest = some bs ∧ decodeUtf8 (textBytes bs) = .ok text ∧
    Manifest.ofText text = .error failure ∧ failure.NamesNul

/-- What is wrong with a request that is handed over, and how that is put. -/
inductive RequestFault (raw : RawRequest) : String → Prop where
  | null (h : raw.path = none) : RequestFault raw "path is null"
  | encoding {bs : List UInt8} {e : Utf8Error} (hpath : raw.path = some bs)
      (h : decodeUtf8 (textBytes bs) = .error e) :
      RequestFault raw ("invalid UTF-8 in path: " ++ e.message)
  | operation {bs : List UInt8} {path : String} (hpath : raw.path = some bs)
      (htext : decodeUtf8 (textBytes bs) = .ok path) (h : Operation.ofCode? raw.operation = none) :
      RequestFault raw ("unknown operation code " ++ toString raw.operation)

/-- What is wrong with a call to have a request decided, and how that is put. -/
inductive CallFault (s : Interceptor) (handle : Option Nat) (raw : RawRequest) :
    (room : Bool) → String → Prop where
  | room : CallFault s handle raw false "out is null"
  | handle (h : s.find? handle = none) : CallFault s handle raw true "arbiter is null"
  | request {found : Handle} {message : String} (hfound : s.find? handle = some found)
      (h : RequestFault raw message) : CallFault s handle raw true message

/-! ## Messages of failures -/

/-- The document of a manifest is the only one of its faults that can show a NUL. -/
theorem ManifestFault.nulFree_iff {words : Json.Wording} (hwords : words.NulFree)
    {manifest : Option (List UInt8)} {message : String} (h : ManifestFault words manifest message) :
    NulFree message ↔ ¬ ManifestNamesNul manifest := by
  cases h with
  | null =>
      refine iff_of_true (by decide) ?_
      rintro ⟨bs, _, _, hbs, -⟩
      cases hbs
  | encoding h =>
      refine iff_of_true (nulFree_append.2 ⟨by decide, Utf8Error.nulFree_message _⟩) ?_
      rintro ⟨bs, text, _, ⟨⟩, htext, -⟩
      cases h.symm.trans htext
  | @document bs text failure htext h =>
      have hmessage : NulFree ("failed to load manifest: " ++
          ("invalid manifest document: " ++ failure.message words text)) ↔
          NulFree (failure.message words text) := by
        rw [nulFree_append, nulFree_append, and_iff_right (by decide), and_iff_right (by decide)]
      have hdocument : NulFree (failure.message words text) ↔ ¬ failure.NamesNul :=
        Manifest.escapes_ofText text failure h words hwords text
      rw [hmessage, hdocument]
      refine not_congr ⟨?_, ?_⟩
      · exact fun hnames => ⟨bs, text, failure, rfl, htext, h, hnames⟩
      · rintro ⟨_, text', failure', ⟨⟩, htext', h', hnames⟩
        obtain rfl := Except.ok.inj (htext.symm.trans htext')
        obtain rfl := Except.error.inj (h.symm.trans h')
        exact hnames
  | directives htext hm h =>
      refine iff_of_true (nulFree_append.2 ⟨by decide, ScopeTree.nulFree_of_ofDirectives h⟩) ?_
      rintro ⟨bs, text, failure, ⟨⟩, htext', h', -⟩
      obtain rfl := Except.ok.inj (htext.symm.trans htext')
      cases hm.symm.trans h'

theorem RequestFault.nulFree {raw : RawRequest} {message : String} (h : RequestFault raw message) :
    NulFree message := by
  cases h with
  | null => decide
  | encoding => exact nulFree_append.2 ⟨by decide, Utf8Error.nulFree_message _⟩
  | operation => exact nulFree_append.2 ⟨by decide, nulFree_repr _⟩

theorem CallFault.nulFree {s : Interceptor} {handle : Option Nat} {raw : RawRequest} {room : Bool}
    {message : String} (h : CallFault s handle raw room message) : NulFree message := by
  cases h with
  | room => decide
  | handle => decide
  | request _ h => exact h.nulFree

namespace Interceptor

/-! ## Calls that fail -/

variable {words : Json.Wording} (s : Interceptor)

theorem lastError_fail_of_nulFree {message : String} (h : NulFree message) :
    (s.fail message).lastError = some message := if_neg h

theorem lastError_fail_of_not_nulFree {message : String} (h : ¬ NulFree message) :
    (s.fail message).lastError = none := if_pos (Decidable.not_not.1 h)

/-- A manifest that is not loaded has a fault. -/
theorem loadBytes_eq_error {manifest : Option (List UInt8)} {message : String}
    (h : loadBytes words manifest = .error message) : ManifestFault words manifest message := by
  cases manifest with
  | none =>
      obtain rfl := Except.error.inj h
      exact .null
  | some bs =>
      cases htext : decodeUtf8 (textBytes bs) with
      | error e =>
          simp only [loadBytes, htext, Except.error.injEq] at h
          rw [← h]
          exact .encoding htext
      | ok text =>
          cases hm : Manifest.ofText text with
          | error failure =>
              simp only [loadBytes, htext, Manifest.load, hm, Except.error.injEq] at h
              rw [← h]
              exact .document htext hm
          | ok m =>
              cases htree : m.tree with
              | error e =>
                  simp only [loadBytes, htext, Manifest.load, hm, htree, Except.error.injEq] at h
                  rw [← h]
                  exact .directives htext hm htree
              | ok tree =>
                  simp only [loadBytes, htext, Manifest.load, hm, htree] at h
                  cases h

/-- A request that cannot be made out has a fault. -/
theorem request_eq_error {raw : RawRequest} {message : String}
    (h : raw.request = .error message) : RequestFault raw message := by
  unfold RawRequest.request at h
  split at h
  · obtain rfl := Except.error.inj h
    exact .null ‹_›
  · rename_i hpath
    split at h
    · obtain rfl := Except.error.inj h
      exact .encoding hpath ‹_›
    · obtain rfl := Except.error.inj h
      exact .operation hpath ‹_› ‹_›
    · cases h

/-- An arbiter is not created because of a fault of its manifest. -/
theorem create_of_fails {manifest : Option (List UInt8)}
    (h : (s.create words manifest).1 = none) :
    ∃ message, ManifestFault words manifest message ∧
      (s.create words manifest).2.lastError = (s.fail message).lastError := by
  cases hload : loadBytes words manifest with
  | error message =>
      exact ⟨message, loadBytes_eq_error hload, by simp only [create, hload]⟩
  | ok loaded =>
      simp only [create, hload] at h
      cases h

/-- A request is not decided because of a fault of the call. -/
theorem arbitrate_of_fails {handle : Option Nat} {raw : RawRequest} {room : Bool}
    (h : (s.arbitrate handle raw room).1 = false) :
    ∃ message, CallFault s handle raw room message ∧
      (s.arbitrate handle raw room).2.2.lastError = (s.fail message).lastError := by
  cases room with
  | false => exact ⟨_, .room, rfl⟩
  | true =>
      cases hfind : s.find? handle with
      | none => exact ⟨_, .handle hfind, by simp [arbitrate, hfind]⟩
      | some found =>
          cases hrequest : raw.request with
          | error message =>
              exact ⟨message, .request hfind (request_eq_error hrequest), by
                simp [arbitrate, hfind, hrequest]⟩
          | ok request => simp [arbitrate, hfind, hrequest] at h

/-- **Failures**: a call to have a request decided that fails leaves the message of its
fault behind.  So does one to create an arbiter, unless its manifest is refused for the
name of an alternative with a NUL in it; then nothing is left behind.  The words of the reader
for flaws and places are without NULs. -/
theorem failure_leaves_message {words : Json.Wording} (hwords : words.NulFree)
    (s : Interceptor) :
    (∀ handle raw room, (s.arbitrate handle raw room).1 = false →
      ∃ message, CallFault s handle raw room message ∧
        (s.arbitrate handle raw room).2.2.lastError = some message) ∧
    ∀ manifest, (s.create words manifest).1 = none →
      ∃ message, ManifestFault words manifest message ∧
        (¬ ManifestNamesNul manifest → (s.create words manifest).2.lastError = some message) ∧
        (ManifestNamesNul manifest → (s.create words manifest).2.lastError = none) := by
  constructor
  · intro handle raw room h
    obtain ⟨message, hfault, hlast⟩ := s.arbitrate_of_fails h
    exact ⟨message, hfault, hlast.trans (s.lastError_fail_of_nulFree hfault.nulFree)⟩
  · intro manifest h
    obtain ⟨message, hfault, hlast⟩ := s.create_of_fails h
    refine ⟨message, hfault, fun hnames => ?_, fun hnames => ?_⟩
    · exact hlast.trans (s.lastError_fail_of_nulFree ((hfault.nulFree_iff hwords).2 hnames))
    · refine hlast.trans (s.lastError_fail_of_not_nulFree fun hfree => ?_)
      exact (hfault.nulFree_iff hwords).1 hfree hnames

/-- Without a manifest no arbiter is created, and without an arbiter nothing is decided. -/
theorem failure_leaves_message_sample :
    Json.Wording.plain.NulFree ∧
      (start.create .plain none).2.lastError = some "manifest_json is null" ∧
      (start.arbitrate none ⟨none, 0, 1, 0, 0, 1⟩ true).2.2.lastError = some "arbiter is null" := by
  obtain ⟨hcalls, hmanifests⟩ := failure_leaves_message Json.Wording.nulFree_plain start
  obtain ⟨_, hmanifest, hkept, -⟩ := hmanifests none rfl
  obtain ⟨_, hcall, hlast⟩ := hcalls none ⟨none, 0, 1, 0, 0, 1⟩ true rfl
  refine ⟨Json.Wording.nulFree_plain, ?_, ?_⟩
  · cases hmanifest
    refine hkept ?_
    rintro ⟨bs, _, _, hbs, -⟩
    cases hbs
  · cases hcall with
    | handle => exact hlast
    | request hfound => cases hfound

/-- A manifest that names, as its mode, a text of one NUL. -/
def nulManifest : List UInt8 := encodeUtf8 "\x7b\"mode\": \"\\u0000\"\x7d"

/-- No arbiter is created from this manifest, and there is no message that says why. -/
theorem create_loses_message :
    (start.create .plain (some nulManifest)).1 = none ∧
      (start.create .plain (some nulManifest)).2.lastError = none := by
  decide +kernel

end Interceptor

end AccessPolicy
