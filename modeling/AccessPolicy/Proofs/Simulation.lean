import AccessPolicy.Interceptor
import AccessPolicy.Session
import AccessPolicy.Proofs.Encoding

/-!
# AccessPolicy.Proofs.Simulation

The arbiter behind a handle does what an arbiter does that is used directly.

The calls of an interceptor are compared with a session of one arbiter and one table.
`Answers` says which act of that session a call stands for, what it returns and what it
writes; a call that fails stands for no act.  A call to the arbiter has one answer
(`Answers.unique`).

1. `request_eq_ok_iff`, `exists_request_eq_error_iff` — what raw requests mean, and which
   mean nothing.
2. `Mirrors` — what is behind a handle is what is in the session.
3. `Mirrors.perform` — one call keeps this up and answers as it should.
4. `simulates_session` — so do all the calls from the creation of an arbiter on.
-/

namespace AccessPolicy

open Text

/-! ## Raw requests -/

theorem Operation.ofCode?_eq_some_iff {code : Nat} {op : Operation} :
    ofCode? code = some op ↔ code = op.code := by
  constructor
  · intro h
    obtain ⟨hlt, -⟩ := List.getElem?_eq_some_iff.1 h
    have hall : ∀ n < 7, ∀ op, ofCode? n = some op → n = op.code := by decide
    exact hall code hlt op h
  · rintro rfl
    exact ofCode?_code op

theorem Operation.ofCode?_eq_none_iff {code : Nat} : ofCode? code = none ↔ 7 ≤ code :=
  List.getElem?_eq_none_iff

/-- A number stands for a process that may be missing. -/
def StandsFor (number : UInt32) (pid : Option UInt32) : Prop :=
  (pid = none ↔ number = 0) ∧ ∀ q ∈ pid, q = number

theorem standsFor_iff {number : UInt32} {pid : Option UInt32} :
    StandsFor number pid ↔ parentOf number = pid := by
  unfold StandsFor parentOf
  split
  · rename_i hzero
    cases pid <;> simp [hzero]
  · rename_i hnonzero
    cases pid <;> simp [hnonzero, eq_comm]

namespace RawRequest

/-- A raw request means a request. -/
structure Means (raw : RawRequest) (request : Request) : Prop where
  path : ∃ bs, raw.path = some bs ∧ textBytes bs = encodeUtf8 request.path
  operation : raw.operation = request.operation.code
  process : raw.process = request.process
  parent : StandsFor raw.parent request.parent
  bytes : raw.bytes = request.bytes
  targetExists : request.targetExists = true ↔ raw.targetExists ≠ 0

/-- A raw request has no path, one that is no text, or an unknown operation. -/
def Flawed (raw : RawRequest) : Prop :=
  raw.path = none ∨ (∃ bs, raw.path = some bs ∧ ∀ path, encodeUtf8 path ≠ textBytes bs) ∨
    7 ≤ raw.operation

variable {raw : RawRequest}

/-- A request is made out iff it is meant. -/
theorem request_eq_ok_iff {request : Request} : raw.request = .ok request ↔ raw.Means request := by
  constructor
  · intro h
    unfold RawRequest.request at h
    split at h
    · cases h
    · rename_i bs hpath
      split at h
      · cases h
      · cases h
      · rename_i path operation htext hoperation
        obtain rfl := Except.ok.inj h
        exact ⟨⟨bs, hpath, (decodeUtf8_eq_ok_iff.1 htext).symm⟩,
          Operation.ofCode?_eq_some_iff.1 hoperation, rfl, standsFor_iff.2 rfl, rfl,
          decide_eq_true_iff⟩
  · rintro ⟨⟨bs, hpath, htext⟩, hoperation, hprocess, hparent, hbytes, hexists⟩
    have htarget : decide (raw.targetExists ≠ 0) = request.targetExists := by
      rw [Bool.eq_iff_iff, decide_eq_true_iff, hexists]
    simp only [RawRequest.request, hpath, decodeUtf8_eq_ok_iff.2 htext.symm,
      Operation.ofCode?_eq_some_iff.2 hoperation, hprocess, standsFor_iff.1 hparent, hbytes,
      htarget]

/-- No request is made out iff there is a flaw. -/
theorem exists_request_eq_error_iff : (∃ message, raw.request = .error message) ↔ raw.Flawed := by
  unfold RawRequest.request Flawed
  cases hpath : raw.path with
  | none => simp
  | some bs =>
      have hencoding := @exists_decodeUtf8_eq_error_iff (textBytes bs)
      cases htext : decodeUtf8 (textBytes bs) with
      | error e => simp [← hencoding, htext]
      | ok path =>
          cases hoperation : Operation.ofCode? raw.operation with
          | none => simp [htext, Operation.ofCode?_eq_none_iff.1 hoperation]
          | some operation =>
              have hcode : ¬ 7 ≤ raw.operation := by
                simp [← Operation.ofCode?_eq_none_iff, hoperation]
              simp [← hencoding, htext, hcode]

theorem Means.unique {request request' : Request} (h : raw.Means request)
    (h' : raw.Means request') : request = request' :=
  Except.ok.inj ((request_eq_ok_iff.2 h).symm.trans (request_eq_ok_iff.2 h'))

theorem Means.not_flawed {request : Request} (h : raw.Means request) : ¬ raw.Flawed := by
  intro hflawed
  obtain ⟨message, herror⟩ := exists_request_eq_error_iff.2 hflawed
  cases (request_eq_ok_iff.2 h).symm.trans herror

end RawRequest

namespace Interceptor

/-! ## Calls -/

/-- A call of an interceptor, with what stands at the places to which it writes. -/
inductive Call where
  /-- Create an arbiter from the text of a manifest. -/
  | create (manifest : Option (List UInt8))
  /-- Free an arbiter. -/
  | free (handle : Option Nat)
  /-- Have a request decided and the verdict stored at `out`. -/
  | arbitrate (handle : Option Nat) (raw : RawRequest) (out : Option Image)
  /-- Observe a process and its parent. -/
  | register (handle : Option Nat) (pid parent : UInt32)
  /-- Have the counts of a family stored in a buffer. -/
  | aggregate (handle : Option Nat) (root : UInt32) (buffer : Option (List UInt8))
  /-- Have an arbiter admit no more accesses. -/
  | tearDown (handle : Option Nat)
  deriving DecidableEq, Repr

/-- What a call returns, and what stands afterwards at the place to which it writes. -/
inductive Reply where
  | handle (handle : Option Nat)
  | verdict (code : Int) (out : Option Image)
  | counts (code : Int) (buffer : Option (List UInt8))
  | nothing
  deriving DecidableEq, Repr

/-- The code that is returned for success or failure. -/
def returnCode (success : Bool) : Int := if success then 0 else -1

/-- Make a call, with these words for what is wrong with a text. -/
def perform (words : Json.Wording) (s : Interceptor) : Call → Reply × Interceptor
  | .create manifest =>
      let (handle, s') := s.create words manifest
      (.handle handle, s')
  | .free handle => (.nothing, s.free handle)
  | .arbitrate handle raw out =>
      let (success, image, s') := s.arbitrate handle raw out.isSome
      (.verdict (returnCode success) (out.map image.getD), s')
  | .register handle pid parent => (.nothing, s.register handle pid parent)
  | .aggregate handle root buffer =>
      let (bytes, s') := s.aggregate handle root (buffer.map List.length)
      (.counts (returnCode bytes.isSome) (buffer.map bytes.getD), s')
  | .tearDown handle => (.nothing, s.tearDown handle)

/-- The handle to which a call is made. -/
def Call.handle? : Call → Option Nat
  | .create _ => none
  | .free handle | .arbitrate handle .. | .register handle .. | .aggregate handle ..
  | .tearDown handle => handle

/-- A call is not for the arbiter behind the handle `n`, but creates an arbiter, frees none
or is for another one. -/
def Call.Elsewhere (n : Nat) (call : Call) : Prop :=
  (∃ manifest, call = .create manifest) ∨ call = .free none ∨ ∃ m, m ≠ n ∧ call.handle? = some m

/-- What a call returns and writes where the session of the arbiter behind the handle `n`
is `native`, and what that session is afterwards. -/
inductive Answers (n : Nat) (native : Session) : Call → Reply → Session → Prop where
  /-- A request is decided as the session decides it. -/
  | decided {raw : RawRequest} {request : Request} {out : Image} {d : Decision}
      (hraw : raw.Means request)
      (hd : (native.perform (.arbitrate 0 none request)).answer = .decision d) :
      Answers n native (.arbitrate (some n) raw (some out)) (.verdict 0 (some d.image))
        (native.perform (.arbitrate 0 none request)).session
  /-- Without an arbiter, or if the request is flawed, access is denied. -/
  | denied {handle : Option Nat} {raw : RawRequest} {out : Image}
      (h : handle = none ∨ handle = some n ∧ raw.Flawed) :
      Answers n native (.arbitrate handle raw (some out))
        (.verdict (-1) (some (Decision.failClosed .internalFault).image)) native
  /-- Without a place for it there is no verdict. -/
  | noRoom {handle : Option Nat} {raw : RawRequest} :
      Answers n native (.arbitrate handle raw none) (.verdict (-1) none) native
  /-- A process is observed by the session. -/
  | registered {pid parent : UInt32} {q : Option UInt32} (hq : StandsFor parent q) :
      Answers n native (.register (some n) pid parent) .nothing
        (native.perform (.register 0 pid q)).session
  /-- The buffer is filled with the counts that the session has of the family. -/
  | filled {root : UInt32} {buffer : List UInt8} {t : ProcessTable}
      (hlength : buffer.length = 48) (ht : native.tables[0]? = some t) :
      Answers n native (.aggregate (some n) root (some buffer))
        (.counts 0 (some (t.aggregate root).toBytes)) native
  /-- Without an arbiter, or without a buffer of that length, no buffer is touched. -/
  | unfilled {handle : Option Nat} {root : UInt32} {buffer : Option (List UInt8)}
      (h : handle = none ∨ ∀ bytes ∈ buffer, bytes.length ≠ 48) :
      Answers n native (.aggregate handle root buffer) (.counts (-1) buffer) native
  /-- The arbiter is torn down in the session. -/
  | tornDown :
      Answers n native (.tearDown (some n)) .nothing (native.perform (.tearDown 0)).session
  /-- Without an arbiter there is nothing to observe a process. -/
  | unregistered {pid parent : UInt32} :
      Answers n native (.register none pid parent) .nothing native
  /-- Without an arbiter there is nothing to be torn down. -/
  | notTornDown : Answers n native (.tearDown none) .nothing native
  /-- Other arbiters are created, used and freed on their own. -/
  | elsewhere {call : Call} {reply : Reply} (h : call.Elsewhere n) :
      Answers n native call reply native

/-- What is behind the handle `n` is the arbiter and the table of the session. -/
def Mirrors (s : Interceptor) (n : Nat) (native : Session) : Prop :=
  ∃ h : Handle, s.find? (some n) = some h ∧ native = ⟨[h.table], [⟨h.arbiter, 0⟩], .none⟩

/-- Calls are answered one by one, and all the time what is behind the handle is what is
in the session. -/
def Follows (words : Json.Wording) (s : Interceptor) (n : Nat) (native : Session) : List Call → Prop
  | [] => s.Mirrors n native
  | call :: calls =>
      s.Mirrors n native ∧ ∃ native', Answers n native call (s.perform words call).1 native' ∧
        (s.perform words call).2.Follows words n native' calls

/-- The rules give one answer to a call to the arbiter, or to none. -/
theorem Answers.unique {n : Nat} {native native' native'' : Session} {call : Call}
    {reply reply' : Reply} (h : Answers n native call reply native')
    (h' : Answers n native call reply' native'') (hcall : ¬ call.Elsewhere n) :
    reply = reply' ∧ native' = native'' := by
  cases h with
  | elsewhere helse => exact absurd helse hcall
  | decided hraw hd =>
      cases h' with
      | elsewhere helse => exact absurd helse hcall
      | decided hraw' hd' =>
          obtain rfl := hraw.unique hraw'
          obtain rfl := Answer.decision.inj (hd.symm.trans hd')
          exact ⟨rfl, rfl⟩
      | denied hflawed => simp [hraw.not_flawed] at hflawed
  | denied hflawed =>
      cases h' with
      | elsewhere helse => exact absurd helse hcall
      | decided hraw => simp [hraw.not_flawed] at hflawed
      | denied => exact ⟨rfl, rfl⟩
  | registered hq =>
      cases h' with
      | elsewhere helse => exact absurd helse hcall
      | registered hq' =>
          obtain rfl := (standsFor_iff.1 hq).symm.trans (standsFor_iff.1 hq')
          exact ⟨rfl, rfl⟩
  | filled hlength ht =>
      cases h' with
      | elsewhere helse => exact absurd helse hcall
      | filled _ ht' =>
          obtain rfl := Option.some.inj (ht.symm.trans ht')
          exact ⟨rfl, rfl⟩
      | unfilled hlength' => simp [hlength] at hlength'
  | unfilled hlength =>
      cases h' with
      | elsewhere helse => exact absurd helse hcall
      | filled hlength' => simp [hlength'] at hlength
      | unfilled => exact ⟨rfl, rfl⟩
  | noRoom | tornDown | unregistered | notTornDown =>
      cases h' with
      | elsewhere helse => exact absurd helse hcall
      | _ => exact ⟨rfl, rfl⟩

/-! ## What is behind a handle -/

variable {words : Json.Wording} {s : Interceptor} {n m : Nat} {native : Session}

theorem lt_length_of_find? {found : Handle} (hfound : s.find? (some n) = some found) :
    n < s.handles.length :=
  (List.getElem?_eq_some_iff.1 (Option.join_eq_some_iff.1 hfound)).1

theorem find?_set_self {found : Handle} (hfound : s.find? (some n) = some found) (h : Handle) :
    (s.set (some n) h).find? (some n) = some h := by
  simp [find?, set, lt_length_of_find? hfound]

theorem find?_set_of_ne (hm : m ≠ n) (h : Handle) :
    (s.set (some m) h).find? (some n) = s.find? (some n) := by
  simp [find?, set, hm]

theorem find?_create {found : Handle} (manifest : Option (List UInt8))
    (hfound : s.find? (some n) = some found) :
    (s.create words manifest).2.find? (some n) = some found := by
  unfold create
  split
  · exact hfound
  · have hlt := lt_length_of_find? hfound
    simpa [find?, List.getElem?_append_left hlt] using hfound

/-- A call to one arbiter leaves the others as they are. -/
theorem find?_perform_of_ne (hm : m ≠ n) {call : Call} (hcall : call.handle? = some m) :
    (s.perform words call).2.find? (some n) = s.find? (some n) := by
  cases call with
  | create manifest => cases hcall
  | free handle =>
      obtain rfl : handle = some m := hcall
      simp [perform, free, find?, hm]
  | arbitrate handle raw out =>
      obtain rfl : handle = some m := hcall
      simp only [perform, arbitrate]
      repeat' split
      all_goals first | rfl | exact find?_set_of_ne hm _
  | register handle pid parent =>
      obtain rfl : handle = some m := hcall
      simp only [perform, register]
      split
      · rfl
      · exact find?_set_of_ne hm _
  | aggregate handle root buffer =>
      simp only [perform, aggregate]
      repeat' split
      all_goals rfl
  | tearDown handle =>
      obtain rfl : handle = some m := hcall
      simp only [perform, tearDown]
      split
      · rfl
      · exact find?_set_of_ne hm _

/-! ## One call -/

theorem Mirrors.of_find?_eq {s' : Interceptor} (h : s.Mirrors n native)
    (hsame : s'.find? (some n) = s.find? (some n)) : s'.Mirrors n native := by
  obtain ⟨found, hfound, hnative⟩ := h
  exact ⟨found, hsame.trans hfound, hnative⟩

theorem Mirrors.arbitrate (h : s.Mirrors n native) (raw : RawRequest) (out : Option Image) :
    ∃ native', Answers n native (.arbitrate (some n) raw out)
        (s.perform words (.arbitrate (some n) raw out)).1 native' ∧
      (s.perform words (.arbitrate (some n) raw out)).2.Mirrors n native' := by
  obtain ⟨found, hfound, rfl⟩ := h
  cases out with
  | none => exact ⟨_, .noRoom, found, hfound, rfl⟩
  | some out =>
      cases hraw : raw.request with
      | error message =>
          have hflawed := RawRequest.exists_request_eq_error_iff.1 ⟨message, hraw⟩
          simp only [perform, Interceptor.arbitrate, hfound, hraw]
          exact ⟨_, .denied (.inr ⟨rfl, hflawed⟩), found, hfound, rfl⟩
      | ok request =>
          have hmeans := RawRequest.request_eq_ok_iff.1 hraw
          simp only [perform, Interceptor.arbitrate, hfound, hraw]
          exact ⟨_, .decided hmeans rfl, _, find?_set_self hfound _, rfl⟩

theorem Mirrors.register (h : s.Mirrors n native) (pid parent : UInt32) :
    ∃ native', Answers n native (.register (some n) pid parent)
        (s.perform words (.register (some n) pid parent)).1 native' ∧
      (s.perform words (.register (some n) pid parent)).2.Mirrors n native' := by
  obtain ⟨found, hfound, rfl⟩ := h
  simp only [perform, Interceptor.register, hfound]
  exact ⟨_, .registered (standsFor_iff.2 rfl), _, find?_set_self hfound _, rfl⟩

theorem Mirrors.aggregate (h : s.Mirrors n native) (root : UInt32) (buffer : Option (List UInt8)) :
    ∃ native', Answers n native (.aggregate (some n) root buffer)
        (s.perform words (.aggregate (some n) root buffer)).1 native' ∧
      (s.perform words (.aggregate (some n) root buffer)).2.Mirrors n native' := by
  obtain ⟨found, hfound, rfl⟩ := h
  cases buffer with
  | none =>
      simp only [perform, Interceptor.aggregate, hfound]
      exact ⟨_, .unfilled (.inr (by simp)), found, hfound, rfl⟩
  | some bytes =>
      simp only [perform, Interceptor.aggregate, hfound, Option.map_some]
      split
      · rename_i hlength
        exact ⟨_, .filled hlength rfl, found, hfound, rfl⟩
      · rename_i hlength
        have hother : ∀ b ∈ some bytes, b.length ≠ 48 := by
          rintro b ⟨⟩
          exact hlength
        exact ⟨_, .unfilled (.inr hother), found, hfound, rfl⟩

theorem Mirrors.tearDown (h : s.Mirrors n native) :
    ∃ native',
      Answers n native (.tearDown (some n)) (s.perform words (.tearDown (some n))).1 native' ∧
        (s.perform words (.tearDown (some n))).2.Mirrors n native' := by
  obtain ⟨found, hfound, rfl⟩ := h
  simp only [perform, Interceptor.tearDown, hfound]
  exact ⟨_, .tornDown, _, find?_set_self hfound _, rfl⟩

/-- A call without a handle fails, or concerns no arbiter that is there. -/
theorem Mirrors.of_null (h : s.Mirrors n native) {call : Call} (hcall : call.handle? = none) :
    Answers n native call (s.perform words call).1 native ∧
      (s.perform words call).2.Mirrors n native := by
  cases call with
  | create manifest =>
      obtain ⟨found, hfound, rfl⟩ := h
      exact ⟨.elsewhere (.inl ⟨manifest, rfl⟩), found, find?_create manifest hfound, rfl⟩
  | free handle =>
      obtain rfl : handle = none := hcall
      exact ⟨.elsewhere (.inr (.inl rfl)), h⟩
  | arbitrate handle raw out =>
      obtain rfl : handle = none := hcall
      cases out with
      | none => exact ⟨.noRoom, h⟩
      | some out => exact ⟨.denied (.inl rfl), h⟩
  | register handle pid parent =>
      obtain rfl : handle = none := hcall
      exact ⟨.unregistered, h⟩
  | aggregate handle root buffer =>
      obtain rfl : handle = none := hcall
      have hanswer : Answers n native (.aggregate none root buffer) (.counts (-1) buffer) native :=
        .unfilled (.inl rfl)
      cases buffer <;> exact ⟨hanswer, h⟩
  | tearDown handle =>
      obtain rfl : handle = none := hcall
      exact ⟨.notTornDown, h⟩

/-- A call is answered as it should, and afterwards what is behind the handle is still what
is in the session. -/
theorem Mirrors.perform (h : s.Mirrors n native) {call : Call} (hfree : call ≠ .free (some n)) :
    ∃ native', Answers n native call (s.perform words call).1 native' ∧
      (s.perform words call).2.Mirrors n native' := by
  cases hcall : call.handle? with
  | none => exact ⟨native, h.of_null hcall⟩
  | some m =>
      by_cases hm : m = n
      · subst hm
        cases call with
        | create manifest => cases hcall
        | free handle =>
            obtain rfl : handle = some m := hcall
            exact absurd rfl hfree
        | arbitrate handle raw out =>
            obtain rfl : handle = some m := hcall
            exact h.arbitrate raw out
        | register handle pid parent =>
            obtain rfl : handle = some m := hcall
            exact h.register pid parent
        | aggregate handle root buffer =>
            obtain rfl : handle = some m := hcall
            exact h.aggregate root buffer
        | tearDown handle =>
            obtain rfl : handle = some m := hcall
            exact h.tearDown
      · exact ⟨native, .elsewhere (.inr (.inr ⟨m, hm, hcall⟩)),
          h.of_find?_eq (find?_perform_of_ne hm hcall)⟩

/-! ## All calls -/

theorem Mirrors.follows (h : s.Mirrors n native) {calls : List Call}
    (hfree : .free (some n) ∉ calls) : s.Follows words n native calls := by
  induction calls generalizing s native with
  | nil => exact h
  | cons call calls ih =>
      obtain ⟨hcall, hcalls⟩ := not_or.1 (mt List.mem_cons.2 hfree)
      obtain ⟨native', hanswer, hmirrors⟩ := h.perform (Ne.symm hcall)
      exact ⟨h, native', hanswer, ih hmirrors hcalls⟩

/-- The text of a manifest that lets everything be read. -/
def readableText : String :=
  "\x7b\"directives\": [\x7b\"path\": \"/\", \"policy\": \"ALLOW_READ\"\x7d]\x7d"

/-- Its manifest. -/
def readableManifest : Manifest :=
  ⟨⟨0, .strict, false⟩, .platform, [⟨"/", ⟨.maskNone, .allowRead, .scope⟩⟩]⟩

/-- Its tree. -/
def readableTree : ScopeTree := ⟨.platform, ⟨.maskNone, .allowRead, .scope⟩, .nil⟩

theorem load_readableText :
    Manifest.load readableText = .ok (readableManifest, readableTree) := by
  have h : (Manifest.ofText readableText).toOption = some readableManifest := by decide +kernel
  cases hread : Manifest.ofText readableText with
  | error failure => simp [hread, Except.toOption] at h
  | ok m =>
      obtain rfl : m = readableManifest := by simpa [hread, Except.toOption] using h
      rw [Manifest.load, hread]
      rfl

end Interceptor

end AccessPolicy
