import AccessPolicy.Path
import AccessPolicy.Scope.Search

/-!
# AccessPolicy.Scope.Tree

The scope tree: the rules of a manifest, found by path.  Its root always has a
rule.

* `resolveFrom_append` — resolving a path in parts is resolving it at once.
-/

namespace AccessPolicy

/-- The rules of a manifest, by path. -/
structure ScopeTree where
  /-- How components are compared. -/
  case : PathCase
  /-- The rule at the root. -/
  rootRule : Rule
  /-- The scopes below the root. -/
  below : Forest
  deriving DecidableEq, Repr

namespace ScopeTree

/-- The root as a scope. -/
def root (tree : ScopeTree) : Scope := ⟨some tree.rootRule, tree.below⟩

/-- Number of scopes, with the root. -/
def nodeCount (tree : ScopeTree) : Nat := tree.below.size + 1

/-- Number of scopes that have a rule. -/
def explicitCount (tree : ScopeTree) : Nat := tree.below.ruled + 1

/-! ## Resolution -/

/-- The position before any component. -/
def rootCursor (tree : ScopeTree) : Cursor := .atRoot tree.root

/-- Resolve the path that leads from a position through further components. -/
def resolveFrom (tree : ScopeTree) (cursor : Cursor) (suffix : List String) : Resolution :=
  (cursor.advance tree.case suffix).resolution

/-- Resolve a path given by its components. -/
def resolveComponents (tree : ScopeTree) (components : List String) : Resolution :=
  tree.resolveFrom tree.rootCursor components

/-- Resolve a path. -/
def resolve (tree : ScopeTree) (path : String) : Except PathError Resolution :=
  (Path.components path).map tree.resolveComponents

/-- Resolving in parts is resolving at once. -/
theorem resolveFrom_append (tree : ScopeTree) (cursor : Cursor) (xs ys : List String) :
    tree.resolveFrom (tree.resolveFrom cursor xs).cursor ys = tree.resolveFrom cursor (xs ++ ys) := by
  simp [resolveFrom, Cursor.advance_append]

/-! ## Where a policy begins -/

/-- The depths and values after each rule that takes part in the policy of a path,
from the root on. -/
def contributions (tree : ScopeTree) (components : List String) : List (Nat × PolicyBits) :=
  let start := tree.rootCursor
  let last := start.advance tree.case components
  let first := tree.root.inheritedRule?.elim [] fun _ => [(0, start.cone)]
  let final := last.exactRule?.elim [] fun rule => [(last.level, rule.apply last.cone)]
  first ++ start.passed tree.case components ++ final

/-- The least depth from which on every rule that takes part leaves all of `bits`
set; there is none when the policy lacks some of them. -/
def lowestConsecutiveDepth (tree : ScopeTree) (components : List String) (bits : PolicyBits) :
    Option Nat :=
  if (tree.resolveComponents components).policy.contains bits then
    let kept := (tree.contributions components).reverse.takeWhile fun c => c.2.contains bits
    kept.getLast?.map (·.1)
  else none

end ScopeTree

end AccessPolicy
