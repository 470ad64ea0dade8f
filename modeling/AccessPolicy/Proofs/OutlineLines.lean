import AccessPolicy.Proofs.CaseKeys
import AccessPolicy.Proofs.Flags
import AccessPolicy.Proofs.Listings
import AccessPolicy.Proofs.Splitting

/-!
# AccessPolicy.Proofs.OutlineLines

How many lines an outline has, and whose lines they are, where it can be written.

The name of a scope is written as it is.  A path may hold any character but the NUL, so a name
may hold a line feed, and then the scope has two lines; what stands behind the line feed can
look like the line of another scope.  Where no path holds a line feed, there is one line for
each scope.

* `OutlineEntry.count_line` — the line feeds of a line are those of the name;
* `Directive.exists_name_iff` — a name holds a character that is no letter iff a path does;
* `Arena.Holds.count_rendering`, `Arena.Holds.splitOn_rendering` — how many line feeds an outline
  has, and what its lines are if no name holds one;
* `ArenaBuilder.outline_lines` — the same, told by the paths of the directives;
* `ArenaBuilder.line_feed_forges_scope` — the outline of two scopes that is also one of three.
-/

namespace AccessPolicy

/-! ## Lines -/

namespace Text

/-- A text of lines is cut into the lines. -/
theorem splitOn_lines {lines : List (List Char)} (h : ∀ line ∈ lines, ∀ c ∈ line, c ≠ '\n') :
    (lines.flatMap (· ++ ['\n'])).splitOn '\n' = lines ++ [[]] := by
  induction lines with
  | nil => rfl
  | cons line lines ih =>
      obtain ⟨hline, hlines⟩ := List.forall_mem_cons.1 h
      rw [List.flatMap_cons, List.append_assoc, List.singleton_append, splitOn_append hline,
        ih hlines, List.cons_append]

/-- Lines with one line feed more than their names have one more each. -/
theorem count_flatMap_lines {α : Type} {line name : α → List Char} {items : List α}
    (h : ∀ item ∈ items, (line item).count '\n' = (name item).count '\n' + 1) :
    (items.flatMap line).count '\n' = items.length + (items.flatMap name).count '\n' := by
  induction items with
  | nil => rfl
  | cons item items ih =>
      obtain ⟨hitem, hitems⟩ := List.forall_mem_cons.1 h
      rw [List.flatMap_cons, List.flatMap_cons, List.count_append, List.count_append, hitem,
        ih hitems, List.length_cons]
      omega

/-- A padded numeral holds no line feed. -/
theorem lineFeed_not_mem_hexPadded (width n : Nat) : '\n' ∉ hexPadded width n := by
  intro hmem
  rcases List.mem_append.1 hmem with hzero | hdigit
  · exact absurd (List.eq_of_mem_replicate hzero) (by decide)
  · obtain ⟨d, hd, heq⟩ := exists_digit_of_mem_hexNumeral hdigit
    have hdigits : ∀ d < 16, '\n' ≠ Nat.digitChar d := by decide
    exact hdigits d hd heq

end Text

namespace OutlineEntry

theorem lineFeed_not_mem_ruleText (rule : Rule) : '\n' ∉ (ruleText rule).toList := by
  have hnumeral (b : PolicyBits) : '\n' ∉ b.paddedHexText.toList := by
    simpa [PolicyBits.paddedHexText] using Text.lineFeed_not_mem_hexPadded 8 b.word.toNat
  have hkind : '\n' ∉ rule.kind.name.toList := by cases rule.kind <;> decide
  simp [ruleText, hnumeral, hkind]

/-- The line feeds of a line are those of the name. -/
theorem count_line (e : OutlineEntry) : e.line.toList.count '\n' = e.name.toList.count '\n' := by
  have hrule : (e.rule.elim "" ruleText).toList.count '\n' = 0 := by
    cases e.rule with
    | none => rfl
    | some rule => exact List.count_eq_zero.2 (lineFeed_not_mem_ruleText rule)
  have hindent : (List.replicate (2 * e.level) ' ').count '\n' = 0 := by
    simp [List.count_replicate]
  rw [line, String.toList_append, String.toList_append, String.toList_ofList, List.count_append,
    List.count_append, hrule, hindent, Nat.zero_add, Nat.add_zero]

end OutlineEntry

/-! ## Names -/

/-- A character that separates nothing is in a text iff it is in a component. -/
theorem Path.Divided.mem_iff {cs : List Char} {names : List String} (h : Divided cs names)
    {x : Char} (hx : isSeparator x = false) : x ∈ cs ↔ ∃ name ∈ names, x ∈ name.toList := by
  have hgap {gap : List Char} (hgap : ∀ c ∈ gap, isSeparator c = true) : x ∉ gap := by
    intro hmem
    rw [hgap x hmem] at hx
    cases hx
  induction h with
  | nothing hspace => simp [hgap hspace]
  | @component gap rest name names hspace hname hplain hend _ ih =>
      simp [hgap hspace, ih]

theorem Path.mem_iff_of_components {path : String} {cs : List String}
    (h : components path = .ok cs) {x : Char} (hx : isSeparator x = false) :
    x ∈ path.toList ↔ ∃ c ∈ cs, x ∈ c.toList := by
  have hruns : (runs path.toList).map String.ofList = cs := by
    rw [components] at h
    repeat' split at h
    all_goals cases h
    rfl
  exact (divided_iff.2 hruns).mem_iff hx

namespace Directive

variable {case : PathCase} {ds : List Directive}

/-- A character that is neither a letter nor a separator is in a name iff it is in a path. -/
theorem exists_name_iff (h : ∀ d ∈ ds, ∃ cs, Path.components d.path = .ok cs) {x : Char}
    (hseparator : Path.isSeparator x = false) (hlow : x.toNat < 0x61)
    (hself : Text.lowerChar x = [x]) :
    (∃ keys, Leads case ds keys ∧ x ∈ (nameOf case ds keys).toList) ↔
      ∃ d ∈ ds, x ∈ d.path.toList := by
  -- A name holds the character iff its key does.
  have hname {p : List String} {k : String} (hleads : Leads case ds (p ++ [k])) :
      x ∈ (nameOf case ds (p ++ [k])).toList ↔ x ∈ k.toList := by
    have hkey := key_of_spelling? (spelling?_eq_nameOf (by simp) hleads)
    rw [← PathCase.mem_key_iff hlow hself case, hkey]
  constructor
  · rintro ⟨keys, hleads, hmem⟩
    cases keys using List.reverseRecOn with
    | nil => simp [nameOf] at hmem
    | append_singleton p k =>
        have hk := (hname hleads).1 hmem
        obtain ⟨d, hd, whole, hwhole, hpre⟩ := hleads
        obtain ⟨cs, hcs⟩ := h d hd
        rw [keys?_of_components hcs, Option.some.injEq] at hwhole
        have hlast : k ∈ cs.map case.key := hwhole ▸ hpre.subset (by simp)
        obtain ⟨c, hc, rfl⟩ := List.mem_map.1 hlast
        rw [PathCase.mem_key_iff hlow hself] at hk
        exact ⟨d, hd, (Path.mem_iff_of_components hcs hseparator).2 ⟨c, hc, hk⟩⟩
  · rintro ⟨d, hd, hmem⟩
    obtain ⟨cs, hcs⟩ := h d hd
    obtain ⟨c, hc, hx⟩ := (Path.mem_iff_of_components hcs hseparator).1 hmem
    obtain ⟨front, back, rfl⟩ := List.append_of_mem hc
    have hleads : Leads case ds (front.map case.key ++ [case.key c]) :=
      ⟨d, hd, _, keys?_of_components hcs case, back.map case.key, by simp⟩
    refine ⟨_, hleads, (hname hleads).2 ?_⟩
    rwa [PathCase.mem_key_iff hlow hself]

end Directive

/-! ## Outlines -/

namespace Arena.Holds

variable {a : Arena} {case : PathCase} {ds : List Directive} {paths : List (List String)}

/-- The root has no name. -/
theorem name_root (h : a.Holds case ds paths) {node : ScopeNode} (hnode : a.nodes[0]? = some node) :
    node.name = "" := by
  obtain ⟨p, hp, hbare⟩ := h.exists_keys hnode
  obtain rfl := Option.some.inj (hp.symm.trans h.indexed.root)
  rw [ScopeNode.name_of_bare hbare, Directive.nameOf, if_pos rfl]

/-- The line of a scope holds the line feeds of its name, and one at its end. -/
theorem count_lineAt (h : a.Holds case ds paths) {v : Nat × Nat} {node : ScopeNode}
    (hnode : a.nodes[v.1]? = some node) :
    (a.lineAt v).toList.count '\n' = node.name.toList.count '\n' + 1 := by
  rw [lineAt_of_getElem? v.2 hnode, String.toList_append, List.count_append,
    OutlineEntry.count_line, OutlineEntry.ofNode]
  refine congrArg (· + 1) ?_
  split
  · rename_i hroot
    rw [hroot] at hnode
    rw [h.name_root hnode]
    show "<root>".toList.count '\n' = "".toList.count '\n'
    decide
  · rfl

/-- An outline has a line feed for each scope, and those of the names. -/
theorem count_rendering (h : a.Holds case ds paths) :
    (a.rendering h.indexed.descends 0 0).toList.count '\n' =
      a.nodeCount + (a.nodes.flatMap (·.name.toList)).count '\n' := by
  let nameOf (node : Option ScopeNode) : List Char := node.elim [] (·.name.toList)
  have hline : ∀ v ∈ a.visits h.indexed.descends 0 0,
      (a.lineAt v).toList.count '\n' = (nameOf a.nodes[v.1]?).count '\n' + 1 := by
    intro v hv
    obtain ⟨node, hnode⟩ := h.indexed.exists_node_of_mem_visits hv
    rw [h.count_lineAt hnode, hnode]
    rfl
  have hnames := (h.indexed.perm_nodes.flatMap_right nameOf).count_eq '\n'
  rw [List.flatMap_map, List.flatMap_map] at hnames
  rw [rendering_eq_join, String.toList_join, List.flatMap_map, Text.count_flatMap_lines hline,
    h.indexed.length_visits, hnames]
  rfl

/-- An outline is cut into the lines of the visits, if no name holds a line feed. -/
theorem splitOn_rendering (h : a.Holds case ds paths)
    (hnames : ∀ node ∈ a.nodes, '\n' ∉ node.name.toList) :
    (a.rendering h.indexed.descends 0 0).toList.splitOn '\n' =
      (a.visits h.indexed.descends 0 0).map (fun visit =>
        (a.entryAt? visit).elim [] (·.line.toList)) ++ [[]] := by
  have hlines : ∀ v ∈ a.visits h.indexed.descends 0 0, (a.lineAt v).toList =
      (a.entryAt? v).elim [] (·.line.toList) ++ ['\n'] := by
    intro v hv
    rw [lineAt, h.entryAt?_of_mem_visits hv]
    simp
  have hplain : ∀ line ∈ (a.visits h.indexed.descends 0 0).map (fun visit =>
      (a.entryAt? visit).elim [] (·.line.toList)), ∀ c ∈ line, c ≠ '\n' := by
    intro line hline c hc
    obtain ⟨v, hv, rfl⟩ := List.mem_map.1 hline
    obtain ⟨node, hnode⟩ := h.indexed.exists_node_of_mem_visits hv
    -- The one line feed that is counted stands at the end.
    have hfeeds := h.count_lineAt hnode
    rw [hlines v hv, List.count_append,
      List.count_eq_zero.2 (hnames node (List.mem_of_getElem? hnode))] at hfeeds
    have hzero : ((a.entryAt? v).elim [] (·.line.toList)).count '\n' = 0 := by
      simpa using hfeeds
    exact fun heq => List.count_eq_zero.1 hzero (heq ▸ hc)
  rw [rendering_eq_join, String.toList_join, List.flatMap_map, ← Text.splitOn_lines hplain,
    List.flatMap_map]
  exact congrArg (List.splitOn '\n') (List.flatMap_congr hlines)

/-- No name holds a line feed iff no path does. -/
theorem lineFeed_not_mem_name_iff (h : a.Holds case ds paths)
    (hsplit : ∀ d ∈ ds, ∃ cs, Path.components d.path = .ok cs) :
    (∀ node ∈ a.nodes, '\n' ∉ node.name.toList) ↔ ∀ d ∈ ds, '\n' ∉ d.path.toList := by
  have hname : (∃ node ∈ a.nodes, '\n' ∈ node.name.toList) ↔
      ∃ keys, Directive.Leads case ds keys ∧ '\n' ∈ (Directive.nameOf case ds keys).toList := by
    constructor
    · rintro ⟨node, hmem, hfeed⟩
      obtain ⟨i, hi⟩ := List.mem_iff_getElem?.1 hmem
      obtain ⟨p, hp, hbare⟩ := h.exists_keys hi
      rw [ScopeNode.name_of_bare hbare] at hfeed
      rcases (h.mem_paths p).1 (List.mem_of_getElem? hp) with rfl | hleads
      · simp [Directive.nameOf] at hfeed
      · exact ⟨p, hleads, hfeed⟩
    · rintro ⟨keys, hleads, hfeed⟩
      obtain ⟨i, hi⟩ := List.mem_iff_getElem?.1 ((h.mem_paths keys).2 (.inr hleads))
      obtain ⟨node, hnode, hbare⟩ := h.exists_node hi
      rw [← ScopeNode.name_of_bare hbare] at hfeed
      exact ⟨node, List.mem_of_getElem? hnode, hfeed⟩
  have hpath := hname.trans
    (Directive.exists_name_iff hsplit (by decide) (by decide) (by decide +kernel))
  simpa using not_congr hpath

end Arena.Holds

namespace ArenaBuilder

variable {case : PathCase} {ds : List Directive} {arena : Arena}

/-- **Lines**: an arena that directives build has an outline iff the scopes of all paths can be
indented.  The outline has one line feed at the end of each scope's line, and those that the
names hold.  So it has as many as there are scopes iff no path of a directive holds a line feed,
and then its lines are those of the scopes, each scope once, in the order in which they are
visited. -/
theorem outline_lines (h : ((empty case).applyAll ds).build = .ok arena) :
    ∃ hd, (arena.outline.isSome = true ↔ Directive.Indentable ds) ∧
      ∀ text, arena.outline = some text →
        text.toList.count '\n' =
          arena.nodeCount + (arena.nodes.flatMap (·.name.toList)).count '\n' ∧
        (text.toList.count '\n' = arena.nodeCount ↔ ∀ d ∈ ds, '\n' ∉ d.path.toList) ∧
        ((∀ d ∈ ds, '\n' ∉ d.path.toList) →
          ((arena.visits hd 0 0).map (·.1)).Perm (List.range arena.nodeCount) ∧
          text.toList.splitOn '\n' =
            (arena.visits hd 0 0).map (fun visit =>
              (arena.entryAt? visit).elim [] (·.line.toList)) ++ [[]]) := by
  obtain ⟨tree, paths, htree, hholds⟩ := exists_of_build h
  obtain ⟨⟨hsplit, -⟩, -, -⟩ := ScopeTree.ofDirectives_eq_ok_iff.1 htree
  have hd := hholds.indexed.descends
  have hroot := hholds.indexed.lt hholds.indexed.root
  have hcount := hholds.count_rendering
  have hfree := hholds.lineFeed_not_mem_name_iff hsplit
  by_cases hds : Directive.Indentable ds
  · have houtline := Arena.outline_of_narrow hd hroot (hholds.indentable_iff.2 hds)
    refine ⟨hd, iff_of_true (by rw [houtline]; rfl) hds, fun text htext => ?_⟩
    obtain rfl := Option.some.inj (houtline.symm.trans htext)
    refine ⟨hcount, ?_,
      fun hpaths => ⟨hholds.indexed.perm_visits, hholds.splitOn_rendering (hfree.2 hpaths)⟩⟩
    rw [hcount, ← hfree]
    simp [List.count_eq_zero]
  · have houtline := (outline_eq_none h hds).2
    refine ⟨hd, iff_of_false (by rw [houtline]; decide) hds, fun text htext => ?_⟩
    rw [houtline] at htext
    cases htext

/-- The sample directives name no line feed, and their outline has four lines for four scopes. -/
theorem outline_lines_sample :
    ∃ arena, ((empty .insensitive).applyAll ScopeTree.sampleDirectives).build = .ok arena ∧
      (∀ d ∈ ScopeTree.sampleDirectives, '\n' ∉ d.path.toList) ∧
      arena.outline = some sampleOutline ∧ sampleOutline.toList.count '\n' = arena.nodeCount ∧
      sampleOutline.toList.count '\n' = 4 := by
  have hplain : ∀ d ∈ ScopeTree.sampleDirectives, '\n' ∉ d.path.toList := by decide +kernel
  have hsample : ScopeTree.sampleTree.outline = some sampleOutline := by decide +kernel
  obtain ⟨arena, harena⟩ := exists_build_of_tree ScopeTree.ofDirectives_sampleDirectives
  have houtline :=
    (outline_of_build harena ScopeTree.ofDirectives_sampleDirectives).trans hsample
  obtain ⟨hd, -, hlines⟩ := outline_lines harena
  obtain ⟨-, hcount, -⟩ := hlines sampleOutline houtline
  exact ⟨arena, harena, hplain, houtline, hcount.2 hplain, by decide +kernel⟩

/-! ## A line that stands for no scope -/

/-- Three scopes: the root, one with a rule that changes nothing, and one that is closed. -/
def plainDirectives : List Directive :=
  [⟨"/", ⟨.maskAll, .allowRead, .scope⟩⟩, ⟨"/a", ⟨.maskNone, ∅, .scope⟩⟩,
    ⟨"/b", ⟨.maskAll, .deny, .scope⟩⟩]

/-- Two scopes: the root, and one whose name holds a line of the outline of the others. -/
def forgedDirectives : List Directive :=
  [⟨"/", ⟨.maskAll, .allowRead, .scope⟩⟩,
    ⟨"/a [scope] mask=0xffffffff policy=0x00000000\n  b", ⟨.maskAll, .deny, .scope⟩⟩]

/-- The tree of the three scopes. -/
def plainTree : ScopeTree :=
  ⟨.sensitive, ⟨.maskAll, .allowRead, .scope⟩,
    .cons "a" "a" (some ⟨.maskNone, ∅, .scope⟩) .nil
      (.cons "b" "b" (some ⟨.maskAll, .deny, .scope⟩) .nil .nil)⟩

/-- The tree of the two scopes. -/
def forgedTree : ScopeTree :=
  ⟨.sensitive, ⟨.maskAll, .allowRead, .scope⟩,
    .cons "a [scope] mask=0xffffffff policy=0x00000000\n  b"
      "a [scope] mask=0xffffffff policy=0x00000000\n  b"
      (some ⟨.maskAll, .deny, .scope⟩) .nil .nil⟩

/-- An outline with three line feeds is that of two scopes, and also that of three: the line
feed in the name of a scope ends a line that reads like that of a scope that is not there. -/
theorem line_feed_forges_scope :
    ∃ arena arena' text,
      ((empty .sensitive).applyAll forgedDirectives).build = .ok arena ∧
      ((empty .sensitive).applyAll plainDirectives).build = .ok arena' ∧
      arena.outline = some text ∧ arena'.outline = some text ∧
      text.toList.count '\n' = 3 ∧ arena.nodeCount = 2 ∧ arena'.nodeCount = 3 := by
  have hforged : ScopeTree.ofDirectives .sensitive forgedDirectives = .ok forgedTree := rfl
  have hplain : ScopeTree.ofDirectives .sensitive plainDirectives = .ok plainTree := rfl
  have hsame : plainTree.outline = forgedTree.outline := by decide +kernel
  have hcount : forgedTree.outline.map (·.toList.count '\n') = some 3 := by decide +kernel
  obtain ⟨text, htext, hfeeds⟩ := Option.map_eq_some_iff.1 hcount
  obtain ⟨arena, harena⟩ := exists_build_of_tree hforged
  obtain ⟨arena', harena'⟩ := exists_build_of_tree hplain
  exact ⟨arena, arena', text, harena, harena', (outline_of_build harena hforged).trans htext,
    (outline_of_build harena' hplain).trans (hsame.trans htext), hfeeds,
    nodeCount_of_build harena hforged, nodeCount_of_build harena' hplain⟩

end ArenaBuilder

end AccessPolicy
