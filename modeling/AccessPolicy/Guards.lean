/-!
# AccessPolicy.Guards

The levels of intercepted calls that a thread has entered.

Each level is held by a guard, and guards are given up in any order.  The depth of
a thread is a counter, which does not know the guards: it goes up by one where a
level is entered and down by one where a level is given up, though never below zero.
That it is the number of entered levels is a theorem.  No thread enters as many
levels at once as a machine word can count, so there is no upper end to it.
-/

namespace AccessPolicy

/-- The hold on one level. -/
structure Guard where
  /-- Guards of one thread are numbered from 0. -/
  number : Nat
  /-- The depth of the thread when the level had just been entered. -/
  depth : Nat
  deriving DecidableEq, Repr

/-- The guards of one thread. -/
structure Guards where
  held : List Guard
  /-- Number of guards given out. -/
  issued : Nat
  /-- The counter of the thread. -/
  depth : Nat
  deriving DecidableEq, Repr

namespace Guards

/-- A thread that has entered no level. -/
def none : Guards := ⟨[], 0, 0⟩

/-- Count a level that is entered. -/
def raise (g : Guards) : Guards := { g with depth := g.depth + 1 }

/-- Count a level that is given up. -/
def lower (g : Guards) : Guards := { g with depth := g.depth - 1 }

/-- The guards while a call is under way: it enters a level of its own, unless it has been
given the guard of one. -/
def begun (g : Guards) : Option Nat → Guards
  | Option.none => g.raise
  | some _ => g

/-- The guards when a call that was under way is over. -/
def ended (g : Guards) : Option Nat → Guards
  | Option.none => g.lower
  | some _ => g

/-- Enter a level. -/
def enter (g : Guards) : Guard × Guards :=
  let guard := ⟨g.issued, g.raise.depth⟩
  (guard, { g.raise with held := g.held ++ [guard], issued := g.issued + 1 })

/-- The guard of a number, if it is still held. -/
def find? (g : Guards) (number : Nat) : Option Guard := g.held.find? (·.number = number)

/-- Give up a guard. -/
def leave (g : Guards) (number : Nat) : Guards :=
  { g.lower with held := g.held.filter (·.number ≠ number) }

/-- Whether a guard that is held is the only one. -/
def onlyOne (g : Guards) : Bool := g.depth = 1

end Guards

end AccessPolicy
