import AccessPolicy.Scope.Tree

/-!
# AccessPolicy.Proofs.Splitting

Which texts are paths, and what their components are.

A component is a longest run of characters other than `/` and `\`.  It is told by where
it stands, not by how it is looked for: `Divided` says how a text is put together from
components with separators before, between and after them.

* `divided_iff` — the runs that are looked for are the components that a text is put
  together from, and there is one way to do so;
* `Remainder.call_of_divided` — the calls of a reader give the components in order, and then
  nothing any more;
* `components_eq_iff` — a text is refused or taken by the first rule that applies;
* `split_exact` — all of this, for the two ways to the components and for look-ups.
-/

namespace AccessPolicy

namespace Path

/-! ## Components by where they stand -/

/-- The separators among some characters divide them into components. -/
inductive Divided : List Char → List String → Prop where
  /-- There are separators only. -/
  | nothing {gap : List Char} (hgap : ∀ c ∈ gap, isSeparator c = true) : Divided gap []
  /-- After separators, if any, a component goes on up to the next separator or the end. -/
  | component {gap rest : List Char} {name : String} {names : List String}
      (hgap : ∀ c ∈ gap, isSeparator c = true) (hname : name ≠ "")
      (hplain : ∀ c ∈ name.toList, isSeparator c = false)
      (hend : ∀ c ∈ rest.head?, isSeparator c = true) (h : Divided rest names) :
      Divided (gap ++ (name.toList ++ rest)) (name :: names)

theorem runs_gap_append {gap : List Char} (h : ∀ c ∈ gap, isSeparator c = true)
    (rest : List Char) : runs (gap ++ rest) = runs rest := by
  induction gap with
  | nil => rfl
  | cons c gap ih =>
      obtain ⟨hc, hgap⟩ := List.forall_mem_cons.1 h
      rw [List.cons_append, runs_cons_of_isSeparator hc, ih hgap]

/-- Where characters are divided into components, these are the runs. -/
theorem Divided.runs_eq {cs : List Char} {names : List String} (h : Divided cs names) :
    runs cs = names.map String.toList := by
  induction h with
  | nothing hgap => simpa [runs_nil] using runs_gap_append hgap []
  | @component gap rest name names hgap hname hplain hend _ ih =>
      have hne : name.toList ≠ [] := fun hnil => hname (String.toList_eq_nil_iff.1 hnil)
      rw [runs_gap_append hgap, runs_append hne hplain hend, ih, List.map_cons]

/-- A separator in front does not matter. -/
theorem Divided.cons_separator {c : Char} {cs : List Char} {names : List String}
    (hc : isSeparator c = true) (h : Divided cs names) : Divided (c :: cs) names := by
  cases h with
  | nothing hgap => exact .nothing (List.forall_mem_cons.2 ⟨hc, hgap⟩)
  | @component gap _ _ _ hgap hname hplain hend h =>
      have hgap : ∀ x ∈ c :: gap, isSeparator x = true := List.forall_mem_cons.2 ⟨hc, hgap⟩
      simpa using Divided.component hgap hname hplain hend h

/-- A component may stand at the very front. -/
theorem Divided.front {name rest : List Char} {names : List String} (hne : name ≠ [])
    (hplain : ∀ c ∈ name, isSeparator c = false) (hend : ∀ c ∈ rest.head?, isSeparator c = true)
    (h : Divided rest names) : Divided (name ++ rest) (String.ofList name :: names) := by
  have hgap : ∀ c ∈ ([] : List Char), isSeparator c = true := by simp
  have hname : String.ofList name ≠ "" := by simpa using hne
  have hchars : ∀ c ∈ (String.ofList name).toList, isSeparator c = false := by simpa using hplain
  simpa using Divided.component hgap hname hchars hend h

/-- Any other character in front begins a component, or the first one begins with it. -/
theorem Divided.cons_plain {c : Char} {cs : List Char} {names : List String}
    (hc : isSeparator c = false) (h : Divided cs names) : ∃ names', Divided (c :: cs) names' := by
  have begun (hend : ∀ d ∈ cs.head?, isSeparator d = true) :
      Divided (c :: cs) (String.ofList [c] :: names) := by
    have hplain : ∀ x ∈ [c], isSeparator x = false := by simpa using hc
    simpa using Divided.front (List.cons_ne_nil _ _) hplain hend h
  cases h with
  | nothing hgap => exact ⟨_, begun fun d hd => hgap d (List.mem_of_mem_head? hd)⟩
  | @component gap rest name names hgap hname hplain hend h =>
      cases gap with
      | nil =>
          have hplain : ∀ x ∈ c :: name.toList, isSeparator x = false :=
            List.forall_mem_cons.2 ⟨hc, hplain⟩
          exact ⟨_, by simpa using Divided.front (List.cons_ne_nil _ _) hplain hend h⟩
      | cons d gap =>
          refine ⟨_, begun fun e he => ?_⟩
          obtain rfl : d = e := by simpa using he
          exact hgap d List.mem_cons_self

theorem exists_divided (cs : List Char) : ∃ names, Divided cs names := by
  induction cs with
  | nil => exact ⟨[], .nothing (by simp)⟩
  | cons c cs ih =>
      obtain ⟨names, h⟩ := ih
      cases hc : isSeparator c with
      | true => exact ⟨names, h.cons_separator hc⟩
      | false => exact h.cons_plain hc

/-- The runs of characters are the components into which they are divided. -/
theorem divided_iff {cs : List Char} {names : List String} :
    Divided cs names ↔ (runs cs).map String.ofList = names := by
  have heq {names : List String} (h : Divided cs names) :
      (runs cs).map String.ofList = names := by
    simp [h.runs_eq]
  constructor
  · exact heq
  · rintro rfl
    obtain ⟨names, h⟩ := exists_divided cs
    rwa [heq h]

/-! ## One call after the other -/

namespace Remainder

/-- What a reader gives at a call, where the calls are numbered from 0. -/
def call (r : Remainder) : Nat → Option String
  | 0 => r.next?.1
  | k + 1 => r.next?.2.call k

/-- A component ends where a separator or nothing follows it. -/
theorem span_component {name rest : List Char} (hplain : ∀ c ∈ name, isSeparator c = false)
    (hend : ∀ c ∈ rest.head?, isSeparator c = true) :
    (name ++ rest).takeWhile (!isSeparator ·) = name ∧
      (name ++ rest).dropWhile (!isSeparator ·) = rest := by
  have hinside : ∀ c ∈ name, (!isSeparator c) = true := by simpa using hplain
  rw [List.takeWhile_append_of_pos hinside, List.dropWhile_append_of_pos hinside]
  cases rest with
  | nil => simp
  | cons c rest => simp [hend c rfl]

/-- A call gives the first component, if there is one, and leaves the others. -/
theorem next?_of_divided {cs : List Char} {names : List String} (h : Divided cs names) :
    (next? ⟨cs⟩).1 = names.head? ∧ Divided (next? ⟨cs⟩).2.chars names.tail := by
  cases h with
  | nothing hgap =>
      have hnone : cs.dropWhile isSeparator = [] := by
        rw [← List.append_nil cs, List.dropWhile_append_of_pos hgap]
        rfl
      simp only [next?, hnone]
      exact ⟨rfl, .nothing (by simp)⟩
  | @component gap rest name names hgap hname hplain hend h =>
      have hhere : (gap ++ (name.toList ++ rest)).dropWhile isSeparator = name.toList ++ rest := by
        rw [List.dropWhile_append_of_pos hgap]
        cases hcs : name.toList with
        | nil => exact absurd (String.toList_eq_nil_iff.1 hcs) hname
        | cons c cs =>
            have hc : isSeparator c = false := hplain c (by simp [hcs])
            simp [hc]
      obtain ⟨htake, hdrop⟩ := span_component hplain hend
      simp only [next?, hhere, htake, hdrop]
      exact ⟨by simp [hname], h⟩

/-- The calls give the components in order, and then nothing any more. -/
theorem call_of_divided {cs : List Char} {names : List String} (h : Divided cs names) (k : Nat) :
    call ⟨cs⟩ k = names[k]? := by
  induction k generalizing cs names with
  | zero => rw [call, (next?_of_divided h).1, List.head?_eq_getElem?]
  | succ k ih => rw [call, ih (next?_of_divided h).2, List.getElem?_tail]

end Remainder

/-! ## Which texts are paths -/

/-- A text starts at a separator, or its first component is a letter and a colon. -/
def Rooted (path : String) (names : List String) : Prop :=
  (∃ c, path.toList.head? = some c ∧ (c = '/' ∨ c = '\\')) ∨
    ∃ letter : Char, ('A' ≤ letter ∧ letter ≤ 'Z' ∨ 'a' ≤ letter ∧ letter ≤ 'z') ∧
      names.head? = some (String.ofList [letter, ':'])

/-- A component that no canonical path has. -/
def Dots (name : String) : Prop := name = "." ∨ name = ".."

instance (name : String) : Decidable (Dots name) :=
  inferInstanceAs (Decidable (name = "." ∨ name = ".."))

/-- What becomes of a text with some components.  Each rule applies where none of those
before it does. -/
inductive Rules (path : String) (names : List String) : Except PathError (List String) → Prop where
  | empty (h : path = "") : Rules path names (.error .empty)
  | nul (hfull : path ≠ "") (h : '\x00' ∈ path.toList) : Rules path names (.error (.nul path))
  | relative (hfull : path ≠ "") (hnul : '\x00' ∉ path.toList) (h : ¬ Rooted path names) :
      Rules path names (.error (.relative path))
  | nonCanonical (hfull : path ≠ "") (hnul : '\x00' ∉ path.toList) (hrooted : Rooted path names)
      {before after : List String} {name : String} (hnames : names = before ++ name :: after)
      (hbefore : ∀ x ∈ before, ¬ Dots x) (h : Dots name) :
      Rules path names (.error (.nonCanonical path name))
  | tooDeep (hfull : path ≠ "") (hnul : '\x00' ∉ path.toList) (hrooted : Rooted path names)
      (hplain : ∀ x ∈ names, ¬ Dots x) (h : 65535 < names.length) :
      Rules path names (.error .tooDeep)
  | taken (hfull : path ≠ "") (hnul : '\x00' ∉ path.toList) (hrooted : Rooted path names)
      (hplain : ∀ x ∈ names, ¬ Dots x) (h : names.length ≤ 65535) : Rules path names (.ok names)

variable {path : String} {names : List String}

theorem isDots_toList (name : String) : isDots name.toList = true ↔ Dots name := by
  have hdots (dots : String) : name.toList = dots.toList ↔ name = dots := String.toList_inj
  simp only [isDots, Dots, Bool.or_eq_true, decide_eq_true_eq]
  exact or_congr (hdots ".") (hdots "..")

/-- A letter is one of the 52 of the Latin alphabet. -/
theorem isDrive_iff {name : List Char} : isDrive name = true ↔
    ∃ letter : Char, ('A' ≤ letter ∧ letter ≤ 'Z' ∨ 'a' ≤ letter ∧ letter ≤ 'z') ∧
      name = [letter, ':'] := by
  have hletter (letter : Char) : letter.isAlpha = true ↔
      'A' ≤ letter ∧ letter ≤ 'Z' ∨ 'a' ≤ letter ∧ letter ≤ 'z' := by
    unfold Char.isAlpha Char.isUpper Char.isLower
    simp [Char.le_def]
  unfold isDrive
  split
  · simp [hletter]
  · rename_i hother
    simp only [Bool.false_eq_true, false_iff]
    rintro ⟨letter, -, rfl⟩
    exact hother letter rfl

theorem isRooted_iff (h : Divided path.toList names) :
    isRooted path.toList = true ↔ Rooted path names := by
  have hdrive (letter : Char) : (names.map String.toList).head? = some [letter, ':'] ↔
      names.head? = some (String.ofList [letter, ':']) := by
    rw [List.head?_map, Option.map_eq_some_iff]
    constructor
    · rintro ⟨name, hname, htoList⟩
      rw [hname, ← htoList, String.ofList_toList]
    · intro hname
      exact ⟨_, hname, String.toList_ofList⟩
  simp only [isRooted, Rooted, h.runs_eq, Bool.or_eq_true, Option.any_eq_true, isDrive_iff,
    isSeparator, decide_eq_true_eq]
  refine or_congr_right ⟨?_, ?_⟩
  · rintro ⟨_, hfirst, letter, hletter, rfl⟩
    exact ⟨letter, hletter, (hdrive letter).1 hfirst⟩
  · rintro ⟨letter, hletter, hfirst⟩
    exact ⟨_, (hdrive letter).2 hfirst, letter, hletter, rfl⟩

/-- The first component that no canonical path has is looked for. -/
theorem find?_isDots (h : Divided path.toList names) :
    (runs path.toList).find? isDots = (names.find? fun x => isDots x.toList).map String.toList := by
  rw [h.runs_eq, List.find?_map]
  rfl

/-- A text becomes what the rules say. -/
theorem components_of_rules (h : Divided path.toList names)
    {result : Except PathError (List String)} (hresult : Rules path names result) :
    components path = result := by
  have hempty : path.toList = [] ↔ path = "" := String.toList_eq_nil_iff
  have hlength : (runs path.toList).length = names.length := by simp [h.runs_eq]
  have hnone (hplain : ∀ x ∈ names, ¬ Dots x) : (runs path.toList).find? isDots = none := by
    rw [find?_isDots h, Option.map_eq_none_iff, List.find?_eq_none]
    exact fun x hx => mt (isDots_toList x).1 (hplain x hx)
  have hall : (runs path.toList).map String.ofList = names := divided_iff.1 h
  rw [components]
  cases hresult with
  | empty h => simp [h]
  | nul hfull hnul => simp [hempty, hfull, hnul]
  | relative hfull hnul hrooted => simp [hempty, hfull, hnul, isRooted_iff h, hrooted]
  | @nonCanonical hfull hnul hrooted before after name hnames hbefore hdots =>
      have hfirst : names.find? (fun x => isDots x.toList) = some name :=
        List.find?_eq_some_iff_append.2 ⟨(isDots_toList name).2 hdots, before, after, hnames,
          fun x hx => by simpa using mt (isDots_toList x).1 (hbefore x hx)⟩
      simp [hempty, hfull, hnul, isRooted_iff h, hrooted, find?_isDots h, hfirst]
  | tooDeep hfull hnul hrooted hplain hdeep =>
      simp [hempty, hfull, hnul, isRooted_iff h, hrooted, hnone hplain, hlength, maxDepth, hdeep]
  | taken hfull hnul hrooted hplain hdepth =>
      simp [hempty, hfull, hnul, isRooted_iff h, hrooted, hnone hplain, hlength, maxDepth,
        Nat.not_lt.2 hdepth, hall]

/-- Some rule applies. -/
theorem exists_rules (path : String) (names : List String) :
    ∃ result, Rules path names result := by
  by_cases hfull : path = ""
  · exact ⟨_, .empty hfull⟩
  by_cases hnul : '\x00' ∈ path.toList
  · exact ⟨_, .nul hfull hnul⟩
  by_cases hrelative : ¬ Rooted path names
  · exact ⟨_, .relative hfull hnul hrelative⟩
  have hrooted := Classical.not_not.1 hrelative
  cases hfirst : names.find? (fun x => isDots x.toList) with
  | some name =>
      obtain ⟨hdots, before, after, hnames, hbefore⟩ := List.find?_eq_some_iff_append.1 hfirst
      exact ⟨_, .nonCanonical hfull hnul hrooted hnames
        (fun x hx => mt (isDots_toList x).2 (by simpa using hbefore x hx))
        ((isDots_toList name).1 hdots)⟩
  | none =>
      have hplain (x : String) (hx : x ∈ names) : ¬ Dots x :=
        mt (isDots_toList x).2 (List.find?_eq_none.1 hfirst x hx)
      by_cases hdepth : names.length ≤ 65535
      · exact ⟨_, .taken hfull hnul hrooted hplain hdepth⟩
      · exact ⟨_, .tooDeep hfull hnul hrooted hplain (Nat.not_le.1 hdepth)⟩

/-- A text is refused or taken by the first rule that applies. -/
theorem components_eq_iff (h : Divided path.toList names)
    {result : Except PathError (List String)} :
    components path = result ↔ Rules path names result := by
  constructor
  · rintro rfl
    obtain ⟨result, hresult⟩ := exists_rules path names
    rwa [components_of_rules h hresult]
  · exact components_of_rules h

/-! ## Texts put together from components -/

/-- A component that a canonical path can have. -/
structure IsComponent (name : String) : Prop where
  nonempty : name ≠ ""
  plain : ∀ c ∈ name.toList, c ≠ '/' ∧ c ≠ '\\' ∧ c ≠ '\x00'
  notDots : ¬ Dots name

instance (name : String) : Decidable (IsComponent name) :=
  -- over the characters of the name: to go through all characters takes too long
  haveI : Decidable (∀ c ∈ name.toList, c ≠ '/' ∧ c ≠ '\\' ∧ c ≠ '\x00') :=
    List.decidableBAll (fun c => c ≠ '/' ∧ c ≠ '\\' ∧ c ≠ '\x00') name.toList
  decidable_of_iff
    (name ≠ "" ∧ (∀ c ∈ name.toList, c ≠ '/' ∧ c ≠ '\\' ∧ c ≠ '\x00') ∧ ¬ Dots name)
    ⟨fun h => ⟨h.1, h.2.1, h.2.2⟩, fun h => ⟨h.nonempty, h.plain, h.notDots⟩⟩

/-- A text of separators only. -/
def Separators (gap : String) : Prop := ∀ c ∈ gap.toList, c = '/' ∨ c = '\\'

instance (gap : String) : Decidable (Separators gap) :=
  List.decidableBAll (fun c => c = '/' ∨ c = '\\') gap.toList

/-- The text of some components, each after its own separators, with more separators at
the end. -/
def spell : List (String × String) → String → String
  | [], last => last
  | (gap, name) :: parts, last => gap ++ name ++ spell parts last

theorem isSeparator_iff {c : Char} : isSeparator c = true ↔ c = '/' ∨ c = '\\' := by
  simp [isSeparator]

variable {parts : List (String × String)} {last : String}

/-- Such a text starts at a separator, unless there is nothing in it. -/
theorem head?_spell (hgaps : ∀ part ∈ parts, part.1 ≠ "" ∧ Separators part.1)
    (hlast : Separators last) : ∀ c ∈ (spell parts last).toList.head?, isSeparator c = true := by
  intro c hc
  cases parts with
  | nil => exact isSeparator_iff.2 (hlast c (List.mem_of_mem_head? hc))
  | cons part parts =>
      obtain ⟨hfull, hgap⟩ := hgaps part List.mem_cons_self
      cases hchars : part.1.toList with
      | nil => exact absurd (String.toList_eq_nil_iff.1 hchars) hfull
      | cons d gap =>
          obtain rfl : d = c := by simpa [spell, hchars] using hc
          exact isSeparator_iff.2 (hgap d (by simp [hchars]))

theorem divided_spell (hgaps : ∀ part ∈ parts, part.1 ≠ "" ∧ Separators part.1)
    (hnames : ∀ part ∈ parts, IsComponent part.2) (hlast : Separators last) :
    Divided (spell parts last).toList (parts.map (·.2)) := by
  induction parts with
  | nil => exact .nothing fun c hc => isSeparator_iff.2 (hlast c hc)
  | cons part parts ih =>
      obtain ⟨⟨-, hgap⟩, hgaps⟩ := List.forall_mem_cons.1 hgaps
      obtain ⟨hname, hnames⟩ := List.forall_mem_cons.1 hnames
      have hplain (c : Char) (hc : c ∈ part.2.toList) : isSeparator c = false := by
        obtain ⟨hslash, hbackslash, -⟩ := hname.plain c hc
        simp [isSeparator, hslash, hbackslash]
      have htext : (spell (part :: parts) last).toList =
          part.1.toList ++ (part.2.toList ++ (spell parts last).toList) := by
        simp [spell]
      rw [htext]
      exact .component (fun c hc => isSeparator_iff.2 (hgap c hc)) hname.nonempty hplain
        (head?_spell hgaps hlast) (ih hgaps hnames)

/-- There is no NUL in it. -/
theorem nul_not_mem_spell (hgaps : ∀ part ∈ parts, part.1 ≠ "" ∧ Separators part.1)
    (hnames : ∀ part ∈ parts, IsComponent part.2) (hlast : Separators last) :
    '\x00' ∉ (spell parts last).toList := by
  have hseparators {gap : String} (h : Separators gap) : '\x00' ∉ gap.toList :=
    fun hnul => absurd (h _ hnul) (by decide)
  induction parts with
  | nil => exact hseparators hlast
  | cons part parts ih =>
      obtain ⟨⟨-, hgap⟩, hgaps⟩ := List.forall_mem_cons.1 hgaps
      obtain ⟨hname, hnames⟩ := List.forall_mem_cons.1 hnames
      have hcomponent : '\x00' ∉ part.2.toList := fun hnul => (hname.plain _ hnul).2.2 rfl
      simp [spell, hseparators hgap, hcomponent, ih hgaps hnames]

/-- A text put together from components has just these. -/
theorem components_spell (hgaps : ∀ part ∈ parts, part.1 ≠ "" ∧ Separators part.1)
    (hnames : ∀ part ∈ parts, IsComponent part.2) (hlast : Separators last)
    (hfull : spell parts last ≠ "") (hdepth : parts.length ≤ 65535) :
    components (spell parts last) = .ok (parts.map (·.2)) := by
  have hrooted : Rooted (spell parts last) (parts.map (·.2)) := by
    cases hchars : (spell parts last).toList with
    | nil => exact absurd (String.toList_eq_nil_iff.1 hchars) hfull
    | cons c cs =>
        have hc : isSeparator c = true := head?_spell hgaps hlast c (by simp [hchars])
        exact .inl ⟨c, by simp [hchars], isSeparator_iff.1 hc⟩
  have hplain : ∀ name ∈ parts.map (·.2), ¬ Dots name :=
    List.forall_mem_map.2 fun part hpart => (hnames part hpart).notDots
  exact components_of_rules (divided_spell hgaps hnames hlast)
    (.taken hfull (nul_not_mem_spell hgaps hnames hlast) hrooted hplain (by simpa using hdepth))

/-! ## Splitting -/

theorem split_eq_error_iff {e : PathError} :
    split path = .error e ↔ components path = .error e := by
  unfold split
  cases components path <;> simp [Except.map]

/-- A text that can be split is taken, and its reader begins where the text does. -/
theorem split_eq_ok_iff {r : Remainder} : split path = .ok r ↔
    r = ⟨path.toList⟩ ∧ ∃ names, components path = .ok names := by
  unfold split
  cases components path <;> simp [Except.map, eq_comm]

/-- **Splitting**: take any text and the components into which its separators divide it.
The text is refused or taken by the first rule that applies, and no other result is
possible.  If it is taken, a reader gives the components in order and then nothing any
more, and to look the text up is to look its components up; if not, both fail for the
same reason.  Conversely, components that canonical paths can have, at most 65535 of
them, are those of any text in which they stand behind separators. -/
theorem split_exact :
    (∀ path : String, ∃ names, Divided path.toList names ∧
      (∀ others, Divided path.toList others → others = names) ∧
      (∀ result, components path = result ↔ Rules path names result) ∧
      (∀ e, split path = .error e ↔ Rules path names (.error e)) ∧
      ((∃ r, split path = .ok r) ↔ Rules path names (.ok names)) ∧
      (∀ r, split path = .ok r → ∀ k, r.call k = names[k]?) ∧
      ∀ tree : ScopeTree,
        (∀ e, Rules path names (.error e) → tree.resolve path = .error e) ∧
        (Rules path names (.ok names) →
          tree.resolve path = .ok (tree.resolveComponents names))) ∧
    ∀ parts last, (∀ part ∈ parts, part.1 ≠ "" ∧ Separators part.1) →
      (∀ part ∈ parts, IsComponent part.2) → Separators last → spell parts last ≠ "" →
      parts.length ≤ 65535 → components (spell parts last) = .ok (parts.map (·.2)) := by
  constructor
  · intro path
    obtain ⟨names, h⟩ := exists_divided path.toList
    refine ⟨names, h, fun others hothers => ?_, fun result => components_eq_iff h, fun e => ?_,
      ⟨?_, fun htaken => ?_⟩, fun r hr k => ?_, fun tree => ⟨fun e herror => ?_, fun htaken => ?_⟩⟩
    · rw [← divided_iff.1 h, ← divided_iff.1 hothers]
    · rw [split_eq_error_iff, components_eq_iff h]
    · rintro ⟨r, hr⟩
      obtain ⟨-, taken, htaken⟩ := split_eq_ok_iff.1 hr
      have hrules := (components_eq_iff h).1 htaken
      obtain rfl : taken = names := by cases hrules; rfl
      exact hrules
    · exact ⟨_, split_eq_ok_iff.2 ⟨rfl, names, (components_eq_iff h).2 htaken⟩⟩
    · obtain ⟨rfl, -⟩ := split_eq_ok_iff.1 hr
      exact Remainder.call_of_divided h k
    · simp [ScopeTree.resolve, (components_eq_iff h).2 herror, Except.map]
    · simp [ScopeTree.resolve, (components_eq_iff h).2 htaken, Except.map]
  · intro parts last hgaps hnames hlast hfull hdepth
    exact components_spell hgaps hnames hlast hfull hdepth

/-- A path with a drive and separators of both kinds is read to its end.  The separators
at the ends of a text do not count, and dots within a component do no harm. -/
theorem split_exact_sample :
    (∃ r, split "C:\\src//tool.exe/" = .ok r ∧ r.call 2 = some "tool.exe" ∧ r.call 3 = none) ∧
      split "C:src" = .error (.relative "C:src") ∧
      components "/\\.git//a.b\\" = .ok [".git", "a.b"] := by
  obtain ⟨hpaths, hspelled⟩ := split_exact
  refine ⟨?_, ?_, ?_⟩
  · obtain ⟨names, -, -, hcomponents, -, htaken, hcalls, -⟩ := hpaths "C:\\src//tool.exe/"
    have hrules := (hcomponents (.ok ["C:", "src", "tool.exe"])).1 rfl
    obtain rfl : names = ["C:", "src", "tool.exe"] := by cases hrules; rfl
    obtain ⟨r, hr⟩ := htaken.2 hrules
    exact ⟨r, hr, hcalls r hr 2, hcalls r hr 3⟩
  · obtain ⟨names, -, -, hcomponents, herrors, -⟩ := hpaths "C:src"
    exact (herrors _).2 ((hcomponents (.error (.relative "C:src"))).1 rfl)
  · exact hspelled [("/\\", ".git"), ("//", "a.b")] "\\" (by decide) (by decide) (by decide)
      (by decide) (by decide)

end Path

end AccessPolicy
