import AccessPolicy.PolicyBits.Text
import AccessPolicy.Scope.Arena

/-!
# AccessPolicy.Scope.Outline

The outline of a scope tree: one line for each scope, every scope before those
below it, siblings in their order.

A line is indented by two spaces a level and shows the name of the scope and, if
it has one, its rule.  An indentation wider than `maxWidth` cannot be written: where
a scope would need one, there is no outline at all.

The outline of an arena is written in a loop.  A stack holds the positions that
are still to be shown, each with its level; the children of a scope are put on it
in reverse, so that the first of them comes next.
-/

namespace AccessPolicy

/-- The greatest width to which a text can be padded. -/
def maxWidth : Nat := UInt16.size - 1

/-- What an outline shows of one scope. -/
structure OutlineEntry where
  level : Nat
  name : String
  rule : Option Rule
  deriving DecidableEq, Repr

namespace OutlineEntry

/-- A rule as it stands behind the name of its scope. -/
def ruleText (rule : Rule) : String :=
  " [" ++ rule.kind.name ++ "] mask=" ++ rule.mask.paddedHexText ++
    " policy=" ++ rule.policy.paddedHexText

/-- The line for a scope, however wide its indentation. -/
def line (e : OutlineEntry) : String :=
  String.ofList (List.replicate (2 * e.level) ' ') ++ e.name ++ e.rule.elim "" ruleText

/-- Whether the indentation can be written. -/
def fits (e : OutlineEntry) : Bool := 2 * e.level ≤ maxWidth

/-- The line for a scope; none if its indentation cannot be written. -/
def line? (e : OutlineEntry) : Option String := if e.fits then some e.line else none

/-- What is shown of the node at a position; the root has no name of its own. -/
def ofNode (position level : Nat) (node : ScopeNode) : OutlineEntry :=
  ⟨level, if position = 0 then "<root>" else node.name, node.rule?⟩

end OutlineEntry

namespace Forest

/-- What is left to do for a list of forests still to be shown. -/
def work : List (Nat × Forest) → Nat
  | [] => 0
  | (_, f) :: rest => 2 * f.size + 1 + work rest

/-- The entries of the scopes of several forests, each with its level. -/
def entries : List (Nat × Forest) → List OutlineEntry
  | [] => []
  | (_, .nil) :: rest => entries rest
  | (level, .cons _ name rule below next) :: rest =>
      ⟨level, name, rule⟩ :: entries ((level + 1, below) :: (level, next) :: rest)
termination_by todo => work todo
decreasing_by all_goals simp only [work, size]; omega

end Forest

namespace ScopeTree

/-- The entries of a tree; the root has no name of its own. -/
def entries (tree : ScopeTree) : List OutlineEntry :=
  ⟨0, "<root>", some tree.rootRule⟩ :: Forest.entries [(1, tree.below)]

/-- The outline of a tree; none if an indentation cannot be written. -/
def outline (tree : ScopeTree) : Option String :=
  if tree.entries.all (·.fits) then some (String.join (tree.entries.map (·.line ++ "\n"))) else none

end ScopeTree

/-- An outline in the making: what is shown, and what waits on the stack to be shown, each
position with its level. -/
structure Sketch where
  shown : String
  waiting : List (Nat × Nat)

namespace Arena

/-- Put children on a stack, the last of them first. -/
def pushChildren (children : List (String × Nat)) (level : Nat) (waiting : List (Nat × Nat)) :
    List (Nat × Nat) :=
  children.reverse.foldl (fun waiting child => (child.2, level) :: waiting) waiting

/-- One turn of the loop: show the scope on top of the stack and put its children there, or end
with what is shown if nothing waits.  Nothing comes out if there is no node at the position, or
if its line cannot be written. -/
def turn (a : Arena) (sketch : Sketch) : Option (Sketch ⊕ String) :=
  match sketch.waiting with
  | [] => some (.inr sketch.shown)
  | (position, level) :: rest =>
      match a.nodes[position]? with
      | none => none
      | some node =>
          match (OutlineEntry.ofNode position level node).line? with
          | none => none
          | some line =>
              some (.inl ⟨sketch.shown ++ line ++ "\n",
                pushChildren node.children (level + 1) rest⟩)

/-- At the beginning nothing is shown, and the root waits. -/
def blankSketch : Sketch := ⟨"", [(0, 0)]⟩

/-- The outline of an arena, if there is one. -/
def outline (a : Arena) : Option String := repeatM a.turn blankSketch

end Arena

end AccessPolicy
