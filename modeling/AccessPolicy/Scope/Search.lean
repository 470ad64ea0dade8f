import AccessPolicy.PathCase
import AccessPolicy.Scope.Forest

/-!
# AccessPolicy.Scope.Search

Searching scopes one component at a time.

A search has a position, the `Cursor`: the scope reached, and the *cone*, the
policy that the scope rules passed so far leave for everything further down.
An exact rule belongs to the cone of no path; it takes part only when a search
ends at its scope.  A search that finds no scope for a component is over, and
further components leave it as it is.  Levels are counted up to `maxLevel`.

* `advance_append` — a search can be interrupted anywhere;
* `advance_of_truncated` — a search that is over stays as it is;
* `level_advance_le` — the level never exceeds the number of components.
-/

namespace AccessPolicy

namespace Scope

/-- The rule that paths below the scope inherit. -/
def inheritedRule? (scope : Scope) : Option Rule := scope.rule.filter (·.kind = .scope)

/-- The rule for the path of the scope alone. -/
def exactRule? (scope : Scope) : Option Rule := scope.rule.filter (·.kind = .exact)

end Scope

/-- The greatest level: levels are numbers of 16 bits. -/
def maxLevel : Nat := UInt16.size - 1

/-- The level below another one; the greatest has none below and stays as it is. -/
def nextLevel (level : Nat) : Nat := min (level + 1) maxLevel

/-- A position in a search. -/
structure Cursor where
  /-- The scope reached. -/
  scope : Scope
  /-- Number of components that led to it, up to `maxLevel`. -/
  level : Nat
  /-- What the rules passed leave for everything further down. -/
  cone : PolicyBits
  /-- The level of the last rule that took part in the cone. -/
  coneDepth : Nat
  /-- Whether a component found no scope. -/
  truncated : Bool
  deriving DecidableEq, Repr

namespace Cursor

/-- The position at the root, before any component. -/
def atRoot (root : Scope) : Cursor where
  scope := root
  level := 0
  cone := root.inheritedRule?.elim ∅ (·.apply ∅)
  coneDepth := 0
  truncated := false

/-- Enter a scope below. -/
def enter (c : Cursor) (scope : Scope) : Cursor :=
  let level := nextLevel c.level
  match scope.inheritedRule? with
  | some rule => { scope, level, cone := rule.apply c.cone, coneDepth := level, truncated := false }
  | none => { c with scope, level }

/-- Search one component further. -/
def step (case : PathCase) (c : Cursor) (component : String) : Cursor :=
  if c.truncated then c
  else
    match c.scope.below.find? (case.key component) with
    | some scope => c.enter scope
    | none => { c with truncated := true }

/-- Search further, component by component. -/
def advance (case : PathCase) (c : Cursor) (components : List String) : Cursor :=
  components.foldl (step case) c

/-- The rule for the path of the search alone, if the search ends here. -/
def exactRule? (c : Cursor) : Option Rule := if c.truncated then none else c.scope.exactRule?

@[simp] theorem advance_nil (case : PathCase) (c : Cursor) : c.advance case [] = c := rfl

@[simp] theorem advance_cons (case : PathCase) (c : Cursor) (x : String) (xs : List String) :
    c.advance case (x :: xs) = (c.step case x).advance case xs := rfl

/-- Searching in two parts is searching at once. -/
theorem advance_append (case : PathCase) (c : Cursor) (xs ys : List String) :
    c.advance case (xs ++ ys) = (c.advance case xs).advance case ys :=
  List.foldl_append

theorem step_of_truncated {case : PathCase} {c : Cursor} (h : c.truncated = true) (x : String) :
    c.step case x = c := if_pos h

/-- A search that is over stays as it is. -/
theorem advance_of_truncated {case : PathCase} {c : Cursor} (h : c.truncated = true)
    (xs : List String) : c.advance case xs = c := by
  induction xs with
  | nil => rfl
  | cons x xs ih => rw [advance_cons, step_of_truncated h, ih]

theorem level_step_le (case : PathCase) (c : Cursor) (x : String) :
    (c.step case x).level ≤ c.level + 1 := by
  have hnext : nextLevel c.level ≤ c.level + 1 := Nat.min_le_left ..
  unfold step enter
  repeat' split
  all_goals simp [hnext]

/-- The level never exceeds the number of components. -/
theorem level_advance_le (case : PathCase) (c : Cursor) (xs : List String) :
    (c.advance case xs).level ≤ c.level + xs.length := by
  induction xs generalizing c with
  | nil => simp
  | cons x xs ih =>
      have := level_step_le case c x
      have := ih (c.step case x)
      simp only [advance_cons, List.length_cons]
      omega

/-! ## The rules that take part -/

/-- Whether the scope that a search has just entered shapes the cone. -/
def shapesCone (c : Cursor) : Bool := !c.truncated && c.scope.inheritedRule?.isSome

/-- The depths and cones after each rule that a search further on passes. -/
def passed (case : PathCase) (c : Cursor) : List String → List (Nat × PolicyBits)
  | [] => []
  | x :: xs =>
      let next := c.step case x
      if next.shapesCone then (next.level, next.cone) :: next.passed case xs
      else next.passed case xs

end Cursor

/-! ## Results -/

/-- What a search has found for its path. -/
structure Resolution where
  /-- The effective policy of the path. -/
  policy : PolicyBits
  /-- The level of the last rule that took part in the policy. -/
  matchedDepth : Nat
  /-- The position from which to search further. -/
  cursor : Cursor
  deriving DecidableEq, Repr

namespace Resolution

/-- What paths below inherit. -/
def cone (r : Resolution) : PolicyBits := r.cursor.cone

/-- Whether a component found no scope. -/
def truncated (r : Resolution) : Bool := r.cursor.truncated

end Resolution

/-- What a search that ends here has found. -/
def Cursor.resolution (c : Cursor) : Resolution :=
  match c.exactRule? with
  | some rule => ⟨rule.apply c.cone, c.level, c⟩
  | none => ⟨c.cone, c.coneDepth, c⟩

@[simp] theorem Cursor.cursor_resolution (c : Cursor) : c.resolution.cursor = c := by
  unfold Cursor.resolution
  split <;> rfl

end AccessPolicy
