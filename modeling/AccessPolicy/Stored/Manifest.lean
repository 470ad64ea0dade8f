import AccessPolicy.Manifest
import AccessPolicy.Stored.Basic

/-!
# AccessPolicy.Stored.Manifest

The stored form of manifests.  Every field has a default except the path of a
directive: a directive without mask keeps all inherited bits, and one without
policy adds none.
-/

namespace AccessPolicy

open Json

/-! ## Settings -/

/-- The modes by the names under which they are stored. -/
def Mode.variants : List (String × Mode) := [.strict, .permissive].map fun mode => (mode.name, mode)

/-- Read a mode. -/
def Mode.ofDoc : Reader Mode := readVariant Mode.variants

namespace PathCase

/-- The conventions by the names under which they are stored. -/
def variants : List (String × PathCase) :=
  [.sensitive, .insensitive].map fun case => (case.name, case)

/-- Read a convention. -/
def ofDoc : Reader PathCase := readVariant variants

end PathCase

/-- The stored form of settings. -/
def Settings.toValue (s : Settings) : Value :=
  .object
    [("pip_id", .ofNat s.pipId.toNat),
     ("mode", .string s.mode.name),
     ("report_all_accesses", .bool s.reportAll)]

/-! ## Directives -/

/-- The kinds of rules by the names under which they are stored. -/
def RuleKind.variants : List (String × RuleKind) :=
  [.scope, .exact].map fun kind => (kind.name, kind)

/-- Read a kind of rule. -/
def RuleKind.ofDoc : Reader RuleKind := readVariant RuleKind.variants

namespace Directive

/-- The stored form of a directive. -/
def toValue (d : Directive) : Value :=
  .object
    [("path", .string d.path),
     ("mask", d.rule.mask.toValue),
     ("policy", d.rule.policy.toValue),
     ("kind", .string d.rule.kind.name)]

/-- The fields of a directive. -/
def schema : Schema :=
  ⟨"Directive",
    [.of "path" readString false,
     .of "mask" PolicyBits.ofDoc true,
     .of "policy" PolicyBits.ofDoc true,
     .of "kind" RuleKind.ofDoc true]⟩

/-- Read a directive. -/
def ofDoc : Reader Directive := fun d => do
  let given ← schema.read d
  return {
    path := ← given.get "path" readString
    rule := {
      mask := ← given.getD "mask" PolicyBits.ofDoc .maskNone
      policy := ← given.getD "policy" PolicyBits.ofDoc ∅
      kind := ← given.getD "kind" RuleKind.ofDoc .scope } }

end Directive

/-! ## Manifests -/

namespace Manifest

/-- The stored form of a manifest. -/
def toValue (m : Manifest) : Value :=
  .object
    [("pip_id", .ofNat m.settings.pipId.toNat),
     ("mode", .string m.settings.mode.name),
     ("case", .string m.case.name),
     ("report_all_accesses", .bool m.settings.reportAll),
     ("directives", .array (m.directives.map Directive.toValue))]

/-- The fields of a manifest. -/
def schema : Schema :=
  ⟨"ManifestConfig",
    [.of "pip_id" readUInt64 true,
     .of "mode" Mode.ofDoc true,
     .of "case" PathCase.ofDoc true,
     .of "report_all_accesses" readBool true,
     .of "directives" (readList Directive.ofDoc) true]⟩

/-- Read a manifest. -/
def ofDoc : Reader Manifest := fun d => do
  let given ← schema.read d
  let pipId ← given.getD "pip_id" readUInt64 0
  let mode ← given.getD "mode" Mode.ofDoc .strict
  let case ← given.getD "case" PathCase.ofDoc .platform
  let reportAll ← given.getD "report_all_accesses" readBool false
  let directives ← given.getD "directives" (readList Directive.ofDoc) []
  return ⟨⟨pipId, mode, reportAll⟩, case, directives⟩

/-- Read the text of a manifest. -/
def ofText (s : String) : Except Failure Manifest := readText ofDoc s

end Manifest

/-! ## Loading -/

/-- Why a manifest cannot be used. -/
inductive LoadError where
  /-- There is nothing that can be read. -/
  | unreadable (message : String)
  /-- The text is not that of a manifest. -/
  | document (text : String) (failure : Failure)
  /-- The manifest describes no scope tree. -/
  | build (error : BuildError)
  deriving Repr

/-- The reason in words. -/
def LoadError.message (words : Wording) : LoadError → String
  | .unreadable message => "failed to read manifest: " ++ message
  | .document text failure => "invalid manifest document: " ++ failure.message words text
  | .build error => error.message

/-- Read the text of a manifest and build its scope tree. -/
def Manifest.load (s : String) : Except LoadError (Manifest × ScopeTree) :=
  match Manifest.ofText s with
  | .error failure => .error (.document s failure)
  | .ok m =>
      match m.tree with
      | .error e => .error (.build e)
      | .ok tree => .ok (m, tree)

end AccessPolicy
