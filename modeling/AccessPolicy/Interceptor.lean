import AccessPolicy.Arbiter
import AccessPolicy.Stored.Manifest
import AccessPolicy.Text.Utf8

/-!
# AccessPolicy.Interceptor

The calls by which a native interceptor uses arbiters.

Arbiters are known to it by handles.  Texts arrive as bytes up to the first NUL, a
handle or text may be null, numbers stand for operations and for missing parents.
A call that fails leaves a message behind, which stays until the next failure.  What is
wrong with the text of a manifest is put in the words of its reader.
-/

namespace AccessPolicy

/-- An arbiter behind a handle, with a table of its own. -/
structure Handle where
  arbiter : Arbiter
  table : ProcessTable

/-- What an interceptor has to do with. -/
structure Interceptor where
  /-- The arbiters by the number of their handle; none where one was freed. -/
  handles : List (Option Handle)
  lastError : Option String

/-- A verdict in numbers. -/
structure Image where
  allowed : Nat
  reported : Nat
  unexpected : Nat
  reason : Nat
  matchedDepth : Nat
  deriving DecidableEq, Repr

/-- A verdict in numbers. -/
def Decision.image (d : Decision) : Image :=
  ⟨d.allowed.toNat, d.reported.toNat, d.unexpected.toNat, d.reason.code, d.matchedDepth.toNat⟩

/-- An access as an interceptor hands it over. -/
structure RawRequest where
  path : Option (List UInt8)
  operation : Nat
  process : UInt32
  /-- The parent of the process, or zero. -/
  parent : UInt32
  bytes : UInt64
  /-- Whether there is something at the path: any number but zero. -/
  targetExists : Nat
  deriving DecidableEq, Repr

/-- The bytes of a text up to the first NUL. -/
def textBytes (bs : List UInt8) : List UInt8 := bs.takeWhile (· ≠ 0)

/-- The parent of a process for which zero stands for none. -/
def parentOf (pid : UInt32) : Option UInt32 := if pid = 0 then none else some pid

/-- The request that is handed over, or what is wrong with it. -/
def RawRequest.request (raw : RawRequest) : Except String Request :=
  match raw.path with
  | none => .error "path is null"
  | some bs =>
      match Text.decodeUtf8 (textBytes bs), Operation.ofCode? raw.operation with
      | .error e, _ => .error ("invalid UTF-8 in path: " ++ e.message)
      | .ok _, none => .error ("unknown operation code " ++ toString raw.operation)
      | .ok path, some operation =>
          .ok
            { path, operation, process := raw.process, parent := parentOf raw.parent,
              bytes := raw.bytes, targetExists := raw.targetExists ≠ 0 }

namespace Interceptor

/-- Before any call. -/
def start : Interceptor := ⟨[], none⟩

/-- What a handle stands for; nothing if it is null. -/
def find? (s : Interceptor) (handle : Option Nat) : Option Handle :=
  handle.bind fun n => s.handles[n]?.join

/-- Put something else behind a handle. -/
def set (s : Interceptor) (handle : Option Nat) (h : Handle) : Interceptor :=
  match handle with
  | some n => { s with handles := s.handles.set n (some h) }
  | none => s

/-- Leave a message behind.  One that contains a NUL cannot be kept. -/
def fail (s : Interceptor) (message : String) : Interceptor :=
  { s with lastError := if '\x00' ∈ message.toList then none else some message }

/-- Load a manifest that is handed over as bytes. -/
def loadBytes (words : Json.Wording) :
    Option (List UInt8) → Except String (Manifest × ScopeTree)
  | none => .error "manifest_json is null"
  | some bs =>
      match Text.decodeUtf8 (textBytes bs) with
      | .error e => .error ("invalid UTF-8 in manifest: " ++ e.message)
      | .ok text =>
          match Manifest.load text with
          | .error e => .error ("failed to load manifest: " ++ e.message words)
          | .ok loaded => .ok loaded

/-- Create an arbiter from the text of a manifest; null if that fails. -/
def create (words : Json.Wording) (s : Interceptor) (manifest : Option (List UInt8)) :
    Option Nat × Interceptor :=
  match loadBytes words manifest with
  | .error message => (none, s.fail message)
  | .ok (m, tree) =>
      (some s.handles.length,
        { s with handles := s.handles ++ [some ⟨.create tree m.settings .logging, ∅⟩] })

/-- Free an arbiter. -/
def free (s : Interceptor) (handle : Option Nat) : Interceptor :=
  match handle with
  | some n => { s with handles := s.handles.set n none }
  | none => s

/-- Have a request decided.  Whether that worked, and the verdict, if there is room
for it. -/
def arbitrate (s : Interceptor) (handle : Option Nat) (raw : RawRequest) (room : Bool) :
    Bool × Option Image × Interceptor :=
  let failed := fun message =>
    (false, some (Decision.failClosed .internalFault).image, s.fail message)
  if !room then (false, none, s.fail "out is null")
  else
    match s.find? handle with
    | none => failed "arbiter is null"
    | some h =>
        match raw.request with
        | .error message => failed message
        | .ok request =>
            let out := h.arbiter.arbitrate 0 h.table request
            (true, some out.decision.image, s.set handle ⟨out.arbiter, out.table⟩)

/-- Observe a process and its parent. -/
def register (s : Interceptor) (handle : Option Nat) (pid parent : UInt32) : Interceptor :=
  match s.find? handle with
  | none => s.fail "arbiter is null"
  | some h => s.set handle { h with table := h.table.register pid (parentOf parent) }

/-- Admit no more accesses. -/
def tearDown (s : Interceptor) (handle : Option Nat) : Interceptor :=
  match s.find? handle with
  | none => s.fail "arbiter is null"
  | some h => s.set handle { h with arbiter := h.arbiter.tearDown.1 }

/-- The layout of the counts of a family, for a buffer of some length, if there is
one. -/
def aggregate (s : Interceptor) (handle : Option Nat) (root : UInt32) (buffer : Option Nat) :
    Option (List UInt8) × Interceptor :=
  match s.find? handle, buffer with
  | some h, some length =>
      if length = Counters.byteLength then (some (h.table.aggregate root).toBytes, s)
      else
        (none, s.fail ("counter buffer must be " ++ toString Counters.byteLength ++
          " bytes, got " ++ toString length))
  | _, _ => (none, s.fail "arbiter or out is null")

end Interceptor

end AccessPolicy
