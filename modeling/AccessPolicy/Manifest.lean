import AccessPolicy.Scope.Tree

/-!
# AccessPolicy.Manifest

The manifest of a job, an ordered list of directives with some settings, and the
scope tree that it describes.

Directives are applied in order.  A later one for the same path replaces the rule
of an earlier one.  The first directive that cannot be applied ends this: its path
is malformed, or a tree has no room for its scopes.  From there on, directives are
only counted, and building the tree fails with that reason.
-/

namespace AccessPolicy

/-- What happens to an access that no rule covers. -/
inductive Mode where
  /-- It is blocked and reported. -/
  | strict
  /-- It proceeds and is reported. -/
  | permissive
  deriving DecidableEq, Repr

instance : Inhabited Mode := ⟨.strict⟩

/-- The name by which a mode is stored. -/
def Mode.name : Mode → String
  | .strict => "strict"
  | .permissive => "permissive"

/-- The title of a mode. -/
def Mode.title : Mode → String
  | .strict => "Strict"
  | .permissive => "Permissive"

/-- How the accesses of a job are treated. -/
structure Settings where
  /-- The process in the build graph that the job runs. -/
  pipId : UInt64
  mode : Mode
  /-- Whether every access is reported. -/
  reportAll : Bool
  deriving DecidableEq, Repr

/-- A rule and the path for which it is meant. -/
structure Directive where
  path : String
  rule : Rule
  deriving DecidableEq, Repr

/-- The manifest of a job. -/
structure Manifest where
  settings : Settings
  case : PathCase
  directives : List Directive
  deriving DecidableEq, Repr

/-! ## Applying rules -/

/-- Number of scopes for which a tree has room, with the root: a scope is known by a
machine word. -/
def maxNodes : Nat := UInt32.size

/-- Why a manifest describes no scope tree. -/
inductive BuildError where
  /-- The root has no rule. -/
  | missingRootRule
  /-- The path of the directive at `index` cannot be split. -/
  | malformedPath (index : Nat) (source : PathError)
  /-- There are more scopes than can be known by numbers up to `max`. -/
  | tooManyNodes (max : Nat)
  deriving DecidableEq, Repr

/-- There is no room for a scope. -/
def BuildError.noRoom : BuildError := .tooManyNodes (maxNodes - 1)

/-- The reason in words. -/
def BuildError.message : BuildError → String
  | .missingRootRule => "manifest root has no explicit rule"
  | .malformedPath index source =>
      "directive " ++ toString index ++ " has a malformed path: " ++ source.message
  | .tooManyNodes max => "manifest exceeds " ++ (toString max ++ " scope nodes")

/-- Set the rule at the path that leads down from a scope. -/
def Scope.insert (case : PathCase) (rule : Rule) : List String → Scope → Scope
  | [], scope => { scope with rule := some rule }
  | x :: xs, scope =>
      { scope with below := scope.below.alter (case.key x) x (Scope.insert case rule xs) }

/-- Number of scopes, with the root. -/
def Scope.size (scope : Scope) : Nat := scope.below.size + 1

/-- A scope tree that is being built. -/
structure Builder where
  case : PathCase
  /-- Number of directives applied. -/
  applied : Nat
  root : Scope
  /-- Why the first directive that could not be applied could not. -/
  error : Option BuildError
  deriving DecidableEq, Repr

namespace Builder

/-- Before any directive. -/
def empty (case : PathCase) : Builder := ⟨case, 0, .blank, none⟩

/-- Apply one directive.  If there is no room for its scopes, the root stays as it is:
nothing is built from it any more. -/
def apply (b : Builder) (d : Directive) : Builder :=
  if b.error.isSome then { b with applied := b.applied + 1 }
  else
    match Path.components d.path with
    | .ok components =>
        let grown := b.root.insert b.case d.rule components
        if grown.size ≤ maxNodes then { b with applied := b.applied + 1, root := grown }
        else { b with applied := b.applied + 1, error := some .noRoom }
    | .error source =>
        { b with applied := b.applied + 1, error := some (.malformedPath b.applied source) }

/-- Apply a rule to a path and everything below it. -/
def addScope (b : Builder) (path : String) (mask policy : PolicyBits) : Builder :=
  b.apply ⟨path, ⟨mask, policy, .scope⟩⟩

/-- Apply a rule to a path alone. -/
def addPath (b : Builder) (path : String) (mask policy : PolicyBits) : Builder :=
  b.apply ⟨path, ⟨mask, policy, .exact⟩⟩

/-- Apply directives in order. -/
def applyAll (b : Builder) (ds : List Directive) : Builder := ds.foldl apply b

/-- Finish a tree. -/
def build (b : Builder) : Except BuildError ScopeTree :=
  match b.error, b.root.rule with
  | some e, _ => .error e
  | none, none => .error .missingRootRule
  | none, some rule => .ok ⟨b.case, rule, b.root.below⟩

end Builder

/-- The scope tree of directives. -/
def ScopeTree.ofDirectives (case : PathCase) (ds : List Directive) : Except BuildError ScopeTree :=
  ((Builder.empty case).applyAll ds).build

/-- The scope tree of a manifest. -/
def Manifest.tree (m : Manifest) : Except BuildError ScopeTree :=
  ScopeTree.ofDirectives m.case m.directives

end AccessPolicy
