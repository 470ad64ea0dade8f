import AccessPolicy.Proofs.RuleMap

/-!
# AccessPolicy.Proofs.Lookup

Scopes by the keys that lead down to them, and what inserting a rule changes there.

* `ruleAt?_insert` — a rule is inserted at its own keys and nowhere else;
* `isSome_at?_insert` — scopes are added on the way to these keys and nowhere else;
* `ordered_insert` — siblings stay in order.
-/

namespace AccessPolicy

/-- A scope that is found among ordered siblings has ordered siblings below it. -/
theorem Forest.ordered_below_of_find? {f : Forest} {key : String} {s : Scope} (h : f.Ordered)
    (hs : f.find? key = some s) : s.below.Ordered := by
  induction f with
  | nil => simp [find?] at hs
  | cons k name rule below next _ ih =>
      obtain ⟨_, hbelow, hnext⟩ := h
      simp only [find?] at hs
      split at hs
      · obtain rfl := Option.some.inj hs
        exact hbelow
      · exact ih hnext hs

namespace Scope

/-! ## Down by keys -/

/-- The scope to which keys lead down. -/
def at? : List String → Scope → Option Scope
  | [], s => some s
  | k :: ks, s => (s.below.find? k).bind (at? ks)

/-- The rule of the scope to which keys lead down. -/
def ruleAt? (s : Scope) (ks : List String) : Option Rule := (s.at? ks).bind (·.rule)

theorem at?_append (ks ls : List String) (s : Scope) :
    s.at? (ks ++ ls) = (s.at? ks).bind (·.at? ls) := by
  induction ks generalizing s with
  | nil => rfl
  | cons k ks ih =>
      simp only [List.cons_append, at?, Option.bind_assoc]
      congr 1
      funext t
      exact ih t

/-- One key further is a look-up among the scopes below. -/
theorem at?_concat (ks : List String) (k : String) (s : Scope) :
    s.at? (ks ++ [k]) = (s.at? ks).bind fun t => t.below.find? k := by
  simp [at?_append, at?]

/-- Nothing lies below the blank scope, and it has no rule. -/
theorem isSome_at?_blank (ks : List String) : (blank.at? ks).isSome = ks.isEmpty := by
  cases ks <;> rfl

theorem ruleAt?_blank (ks : List String) : blank.ruleAt? ks = none := by cases ks <;> rfl

/-- To look for a rule, a scope that is missing is as good as the blank one. -/
theorem ruleAt?_cons (s : Scope) (k : String) (ks : List String) :
    s.ruleAt? (k :: ks) = ((s.below.find? k).getD .blank).ruleAt? ks := by
  cases hfound : s.below.find? k with
  | none => rw [Option.getD_none, ruleAt?_blank, ruleAt?, at?, hfound]; rfl
  | some t => rw [ruleAt?, at?, hfound]; rfl

/-! ## Inserting a rule -/

variable {case : PathCase} {rule : Rule}

theorem ordered_insert (xs : List String) (s : Scope) (h : s.below.Ordered) :
    (s.insert case rule xs).below.Ordered := by
  induction xs generalizing s with
  | nil => exact h
  | cons x xs ih => exact Forest.ordered_alter h ih

/-- Below the first component of an inserted rule, the rest of its path is inserted. -/
theorem find?_below_insert {s : Scope} (h : s.below.Ordered) (x k : String) (xs : List String) :
    (s.insert case rule (x :: xs)).below.find? k =
      if k = case.key x then some (((s.below.find? k).getD .blank).insert case rule xs)
      else s.below.find? k := by
  simp only [insert, Forest.find?_alter h]
  split
  · subst_vars; rfl
  · rfl

/-- The scope from which the rest of a path leads on. -/
theorem ordered_below_getD {s : Scope} (h : s.below.Ordered) (k : String) :
    ((s.below.find? k).getD .blank).below.Ordered := by
  cases hfound : s.below.find? k with
  | none => trivial
  | some t => exact Forest.ordered_below_of_find? h hfound

/-- A rule is inserted at its own keys and nowhere else. -/
theorem ruleAt?_insert {s : Scope} (h : s.below.Ordered) (xs ks : List String) :
    (s.insert case rule xs).ruleAt? ks =
      if ks = xs.map case.key then some rule else s.ruleAt? ks := by
  induction xs generalizing s ks with
  | nil => cases ks <;> simp [insert, ruleAt?, at?]
  | cons x xs ih =>
      cases ks with
      | nil => simp [insert, ruleAt?, at?]
      | cons k ks =>
          rw [ruleAt?_cons, find?_below_insert h]
          by_cases hk : k = case.key x
          · rw [if_pos hk, Option.getD_some, ih (ordered_below_getD h k), ← ruleAt?_cons]
            simp [hk]
          · rw [if_neg hk, ← ruleAt?_cons]
            simp [hk]

/-- Scopes are added on the way to the keys of an inserted rule and nowhere else. -/
theorem isSome_at?_insert {s : Scope} (h : s.below.Ordered) (xs ks : List String) :
    ((s.insert case rule xs).at? ks).isSome =
      (ks.isPrefixOf (xs.map case.key) || (s.at? ks).isSome) := by
  induction xs generalizing s ks with
  | nil => cases ks <;> simp [insert, at?]
  | cons x xs ih =>
      cases ks with
      | nil => simp [at?]
      | cons k ks =>
          rw [at?, find?_below_insert h, at?]
          by_cases hk : k = case.key x
          · rw [if_pos hk, Option.bind_some, ih (ordered_below_getD h k), List.map_cons, ← hk]
            cases s.below.find? k with
            | none =>
                rw [Option.getD_none, isSome_at?_blank]
                cases ks <;> simp
            | some t => simp
          · rw [if_neg hk]
            simp [hk]

end Scope

end AccessPolicy
