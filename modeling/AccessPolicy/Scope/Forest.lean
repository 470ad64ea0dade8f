import AccessPolicy.Rule

/-!
# AccessPolicy.Scope.Forest

Scopes: a rule that may be missing, and named scopes below it.

The scopes below one scope are siblings in ascending order of their keys.  Each
keeps the spelling under which it was first named.

* `find?_alter` — changing the scope at one key changes what is found there and
  nowhere else;
* `ordered_alter` — the siblings stay in order.
-/

namespace AccessPolicy

/-- Sibling scopes, each with its rule and with the scopes below it. -/
inductive Forest where
  | nil
  | cons (key name : String) (rule : Option Rule) (below next : Forest)
  deriving DecidableEq, Repr

/-- One scope: its own rule, if it has one, and the scopes below it. -/
structure Scope where
  rule : Option Rule
  below : Forest
  deriving DecidableEq, Repr

/-- The scope that has no rule and nothing below it. -/
def Scope.blank : Scope := ⟨none, .nil⟩

namespace Forest

/-! ## Siblings -/

/-- The scope at a key. -/
def find? (key : String) : Forest → Option Scope
  | .nil => none
  | .cons k _ rule below next => if key = k then some ⟨rule, below⟩ else find? key next

/-- Change the scope at a key.  Where there is none, a blank one called `name` is
put in its place among the siblings first. -/
def alter (key name : String) (change : Scope → Scope) : Forest → Forest
  | .nil =>
      let scope := change .blank
      .cons key name scope.rule scope.below .nil
  | .cons k n rule below next =>
      if key = k then
        let scope := change ⟨rule, below⟩
        .cons k n scope.rule scope.below next
      else if key < k then
        let scope := change .blank
        .cons key name scope.rule scope.below (.cons k n rule below next)
      else .cons k n rule below (alter key name change next)

/-- The keys of the siblings, from the first. -/
def keys : Forest → List String
  | .nil => []
  | .cons key _ _ _ next => key :: next.keys

/-- Siblings ascend by key, here and on every level below. -/
def Ordered : Forest → Prop
  | .nil => True
  | .cons key _ _ below next => (∀ k ∈ next.keys, key < k) ∧ below.Ordered ∧ next.Ordered

theorem find?_eq_none_iff {key : String} {f : Forest} : f.find? key = none ↔ key ∉ f.keys := by
  induction f with
  | nil => simp [find?, keys]
  | cons k n rule below next _ ih => by_cases h : key = k <;> simp [find?, keys, h, ih]

theorem mem_keys_alter {key name k : String} {change : Scope → Scope} {f : Forest} :
    k ∈ (f.alter key name change).keys ↔ k = key ∨ k ∈ f.keys := by
  induction f with
  | nil => simp [alter, keys]
  | cons k' n rule below next _ ih =>
      simp only [alter]
      split
      · subst_vars; simp [keys]
      · split
        · simp [keys]
        · simp only [keys, List.mem_cons, ih]
          exact or_left_comm

/-- Changing the scope at one key changes what is found there and nowhere else. -/
theorem find?_alter {key name k : String} {change : Scope → Scope} {f : Forest}
    (h : f.Ordered) :
    (f.alter key name change).find? k =
      if k = key then some (change ((f.find? key).getD .blank)) else f.find? k := by
  induction f with
  | nil => simp [alter, find?]
  | cons k' n rule below next _ ih =>
      obtain ⟨hlt, _, hnext⟩ := h
      simp only [alter]
      split
      · subst_vars
        by_cases hk : k = k' <;> simp [find?, hk]
      · rename_i hne
        split
        · rename_i hless
          have hfree : next.find? key = none := by
            refine find?_eq_none_iff.2 fun hmem => ?_
            exact String.lt_irrefl _ (String.lt_trans hless (hlt key hmem))
          by_cases hk : k = key <;> simp [find?, hne, hfree, hk]
        · simp only [find?, ih hnext, if_neg hne]
          by_cases hk : k = k'
          · subst hk
            simp [Ne.symm hne]
          · simp [hk]

/-- Siblings stay in order, if the change keeps those below in order. -/
theorem ordered_alter {key name : String} {change : Scope → Scope} {f : Forest}
    (h : f.Ordered) (hchange : ∀ s : Scope, s.below.Ordered → (change s).below.Ordered) :
    (f.alter key name change).Ordered := by
  induction f with
  | nil => exact ⟨by simp [keys], hchange .blank trivial, trivial⟩
  | cons k n rule below next _ ih =>
      obtain ⟨hlt, hbelow, hnext⟩ := h
      simp only [alter]
      split
      · exact ⟨hlt, hchange ⟨rule, below⟩ hbelow, hnext⟩
      · rename_i hne
        split
        · rename_i hless
          refine ⟨fun x hx => ?_, hchange .blank trivial, hlt, hbelow, hnext⟩
          rcases List.mem_cons.1 hx with rfl | hx
          · exact hless
          · exact String.lt_trans hless (hlt x hx)
        · rename_i hnot
          refine ⟨fun x hx => ?_, hbelow, ih hnext⟩
          rcases mem_keys_alter.1 hx with rfl | hx
          · exact Decidable.byContradiction fun hle =>
              hne (String.le_antisymm (String.not_lt.1 hle) (String.not_lt.1 hnot))
          · exact hlt x hx

/-! ## All levels -/

/-- Number of scopes. -/
def size : Forest → Nat
  | .nil => 0
  | .cons _ _ _ below next => below.size + next.size + 1

/-- Number of scopes that have a rule. -/
def ruled : Forest → Nat
  | .nil => 0
  | .cons _ _ rule below next => below.ruled + next.ruled + if rule.isSome then 1 else 0

end Forest

end AccessPolicy
