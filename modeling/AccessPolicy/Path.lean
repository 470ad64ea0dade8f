import AccessPolicy.Text.Quoted

/-!
# AccessPolicy.Path

Splitting an absolute, canonical path into its components.

Both `/` and `\` separate components, and a run of separators counts as one.
A text is refused for the first of these reasons that applies:

1. it is empty;
2. it contains a NUL;
3. it neither starts with a separator nor has a drive (a letter and a colon) as
   its first component;
4. one of its components is `.` or `..`;
5. it has more than `maxDepth` components.

A path that consists of separators only is the root and has no component.

* `runs_append` — what stands before the first separator is the first component;
* `drain_eq_runs` — reading components one at a time gives all of them.
-/

namespace AccessPolicy

/-- The greatest number of components of a path. -/
def maxDepth : Nat := 65535

/-- Why a text is no absolute, canonical path. -/
inductive PathError where
  /-- The text is empty. -/
  | empty
  /-- The path starts neither at a separator nor at a drive. -/
  | relative (path : String)
  /-- A component of the path is `.` or `..`. -/
  | nonCanonical (path component : String)
  /-- The path contains a NUL. -/
  | nul (path : String)
  /-- The path has more than `maxDepth` components. -/
  | tooDeep
  deriving DecidableEq, Repr

/-- The reason in words. -/
def PathError.message : PathError → String
  | .empty => "empty path"
  | .relative path => "path is not absolute: " ++ path
  | .nonCanonical path component =>
      "non-canonical component " ++ Text.quoted component ++ " in " ++ path
  | .nul path => "path contains a NUL byte: " ++ Text.quoted path
  | .tooDeep => "path is deeper than " ++ toString maxDepth ++ " components"

namespace Path

/-! ## Components -/

/-- Whether a character separates components. -/
def isSeparator (c : Char) : Bool := c = '/' || c = '\\'

/-- The maximal runs of characters between separators. -/
def runs (cs : List Char) : List (List Char) :=
  (cs.splitOnP isSeparator).filter (!·.isEmpty)

theorem runs_nil : runs [] = [] := rfl

/-- A leading separator does not matter. -/
theorem runs_cons_of_isSeparator {c : Char} (h : isSeparator c = true) (cs : List Char) :
    runs (c :: cs) = runs cs := by
  simp [runs, List.splitOnP_cons_eq_if_modifyHead, h]

theorem runs_dropWhile_isSeparator (cs : List Char) : runs (cs.dropWhile isSeparator) = runs cs := by
  induction cs with
  | nil => rfl
  | cons c cs ih =>
      by_cases h : isSeparator c = true
      · rw [List.dropWhile_cons_of_pos h, ih, runs_cons_of_isSeparator h]
      · rw [List.dropWhile_cons_of_neg h]

/-- The characters before the first separator are the first of the parts. -/
theorem splitOnP_append {name rest : List Char} (h : ∀ c ∈ name, isSeparator c = false) :
    (name ++ rest).splitOnP isSeparator =
      (rest.splitOnP isSeparator).modifyHead (name ++ ·) := by
  induction name with
  | nil => cases h : rest.splitOnP isSeparator <;> simp [h]
  | cons c name ih =>
      have hc := h c (by simp)
      rw [List.cons_append, List.splitOnP_cons_eq_if_modifyHead, hc, if_neg (by simp),
        ih fun d hd => h d (by simp [hd]), List.modifyHead_modifyHead]
      rfl

/-- What stands before the first separator is the first component. -/
theorem runs_append {name rest : List Char} (hname : name ≠ [])
    (hplain : ∀ c ∈ name, isSeparator c = false)
    (hrest : ∀ c ∈ rest.head?, isSeparator c = true) : runs (name ++ rest) = name :: runs rest := by
  rw [runs, splitOnP_append hplain]
  cases rest with
  | nil => simp [runs, hname]
  | cons c rest =>
      have hc : isSeparator c = true := hrest c (by simp)
      simp [runs, List.splitOnP_cons_eq_if_modifyHead, hc, hname]

/-- Whether a component is a drive. -/
def isDrive : List Char → Bool
  | [letter, ':'] => letter.isAlpha
  | _ => false

/-- Whether a component stands for a directory that canonical paths do not name. -/
def isDots (name : List Char) : Bool := name = ['.'] || name = ['.', '.']

/-- Whether the characters of a path start at a separator or at a drive. -/
def isRooted (cs : List Char) : Bool :=
  cs.head?.any isSeparator || (runs cs).head?.any isDrive

/-- The components of a path. -/
def components (path : String) : Except PathError (List String) :=
  let cs := path.toList
  if cs = [] then .error .empty
  else if '\x00' ∈ cs then .error (.nul path)
  else if !isRooted cs then .error (.relative path)
  else
    match (runs cs).find? isDots with
    | some name => .error (.nonCanonical path (String.ofList name))
    | none =>
        if maxDepth < (runs cs).length then .error .tooDeep
        else .ok ((runs cs).map String.ofList)

/-! ## One component at a time -/

/-- The part of a path whose components are still to be read. -/
structure Remainder where
  chars : List Char
  deriving DecidableEq, Repr

namespace Remainder

/-- The next component, if there is one, and what follows it. -/
def next? (r : Remainder) : Option String × Remainder :=
  let here := r.chars.dropWhile isSeparator
  let name := here.takeWhile (!isSeparator ·)
  (if name.isEmpty then none else some (String.ofList name),
    ⟨here.dropWhile (!isSeparator ·)⟩)

theorem length_next?_lt {r s : Remainder} {name : String} (h : r.next? = (some name, s)) :
    s.chars.length < r.chars.length := by
  simp only [next?, Prod.mk.injEq] at h
  obtain ⟨hname, rfl⟩ := h
  have hdrop := (List.dropWhile_suffix (p := isSeparator) (l := r.chars)).length_le
  have hcut := congrArg List.length
    (List.takeWhile_append_dropWhile (p := (!isSeparator ·)) (l := r.chars.dropWhile isSeparator))
  split at hname
  · simp at hname
  · rename_i hne
    have := List.length_pos_iff.2 (mt List.isEmpty_iff.2 hne)
    simp only [List.length_append] at hcut
    dsimp only
    omega

/-- Read components until there is none left. -/
def drain (r : Remainder) : List String :=
  match _h : r.next? with
  | (some name, rest) => name :: rest.drain
  | (none, _) => []
termination_by r.chars.length
decreasing_by exact length_next?_lt (by assumption)

/-- Reading components one at a time gives all of them. -/
theorem drain_eq_runs (r : Remainder) : r.drain = (runs r.chars).map String.ofList := by
  fun_induction drain r with
  | case1 r name rest hnext ih =>
      have hcut := List.takeWhile_append_dropWhile (p := (!isSeparator ·))
        (l := r.chars.dropWhile isSeparator)
      simp only [next?, Prod.mk.injEq] at hnext
      obtain ⟨hname, rfl⟩ := hnext
      split at hname
      · simp at hname
      · rename_i hne
        obtain rfl := Option.some.inj hname
        have hruns : runs r.chars = (r.chars.dropWhile isSeparator).takeWhile (!isSeparator ·) ::
            runs ((r.chars.dropWhile isSeparator).dropWhile (!isSeparator ·)) := by
          rw [← runs_dropWhile_isSeparator r.chars]
          conv => lhs; rw [← hcut]
          refine runs_append (by simpa using hne) (fun c hc => ?_) fun c hc => ?_
          · simpa using List.all_eq_true.1 (List.all_takeWhile (p := (!isSeparator ·))) c hc
          · have hfirst := List.head?_dropWhile_not (!isSeparator ·)
              (r.chars.dropWhile isSeparator)
            rw [Option.mem_def.1 hc] at hfirst
            simpa using hfirst
        rw [ih, hruns, List.map_cons]
  | case2 r rest hnext =>
      simp only [next?, Prod.mk.injEq] at hnext
      obtain ⟨hname, rfl⟩ := hnext
      split at hname
      · rename_i hnone
        have hfirst := List.head?_dropWhile_not isSeparator r.chars
        rw [← runs_dropWhile_isSeparator r.chars]
        cases hrest : r.chars.dropWhile isSeparator with
        | nil => rfl
        | cons c cs =>
            rw [hrest] at hfirst hnone
            simp [show isSeparator c = false from hfirst] at hnone
      · simp at hname

end Remainder

/-- Check a path; its components can then be read one at a time. -/
def split (path : String) : Except PathError Remainder :=
  (components path).map fun _ => ⟨path.toList⟩

end Path

end AccessPolicy
