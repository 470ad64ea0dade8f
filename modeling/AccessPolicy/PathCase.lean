import AccessPolicy.Text.Lowercase

/-!
# AccessPolicy.PathCase

How components are compared: scopes are found by the `key` of a component,
which is the component itself or its lowercase form.
-/

namespace AccessPolicy

/-- How the components of two paths are compared. -/
inductive PathCase where
  /-- Components match when they are equal. -/
  | sensitive
  /-- Components match when they differ in case only. -/
  | insensitive
  deriving DecidableEq, Repr

namespace PathCase

/-- The convention where none is stated. -/
def platform : PathCase := .sensitive

instance : Inhabited PathCase := ⟨platform⟩

/-- The name of a convention. -/
def name : PathCase → String
  | .sensitive => "sensitive"
  | .insensitive => "insensitive"

/-- Whether a component has to be lowercased to give its key. -/
def folds (case : PathCase) (component : String) : Bool :=
  match case with
  | .sensitive => false
  | .insensitive => component.toList.any Text.isUppercase

/-- The key by which a component is found. -/
def key (case : PathCase) (component : String) : String :=
  if case.folds component then Text.lowercase component else component

@[simp] theorem key_sensitive (component : String) : key .sensitive component = component := rfl

end PathCase

end AccessPolicy
