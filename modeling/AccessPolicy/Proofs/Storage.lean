import AccessPolicy.Proofs.ByteOrder
import AccessPolicy.Proofs.Indexing
import AccessPolicy.Proofs.Naming

/-!
# AccessPolicy.Proofs.Storage

What an arena holds after any directives.

Directives are *accepted* up to the first that cannot be applied.  After any directives, an
arena is indexed by keys that directives lead through, among them all keys that the accepted
ones lead through; at each position there are the name that was spelled first and the rule that
the accepted ones leave in force.  Everything else follows from this:

1. children ascend by the bytes of their keys, and come after their parents;
2. one way leads down to each scope;
3. scopes without rules change nothing;
4. there are no scopes but those of the accepted directives, and none without a rule has
   nothing below it.

Rule 4 has one exception.  Where there is no room for the scopes of a directive, those that
were added for it stay, and the last of them has nothing below it.

* `Holds.insert_or_full` — one directive more;
* `applyAll_of_admissible`, `applyAll_of_defect` — any directives;
* `Keeps.wellFormed`, `Keeps.describes` — rules 1 to 3, `Holds.complete` — rule 4;
* `arena_invariant` — all of this for builders and for what they build.
-/

namespace AccessPolicy

/-! ## Content -/

namespace ScopeNode

/-- A scope with a name and, possibly, a rule, and nothing below it. -/
def holding (name : String) (rule : Option Rule) : ScopeNode :=
  rule.elim (.routing name) (routing name).withRule

variable {node : ScopeNode} {name : String} {rule : Option Rule}

theorem withRule_holding (name : String) (rule : Option Rule) (rule' : Rule) :
    (holding name rule).withRule rule' = holding name (some rule') := by
  cases rule <;> rfl

theorem name_of_bare (h : node.bare = holding name rule) : node.name = name := by
  have hname : node.bare.name = name := by
    rw [h]
    cases rule <;> rfl
  exact hname

theorem rule?_of_bare (h : node.bare = holding name rule) : node.rule? = rule := by
  have hrule : node.bare.rule? = rule := by
    rw [h]
    rcases rule with - | ⟨mask, policy, kind⟩
    · rfl
    · cases kind <;> rfl
  exact hrule

theorem explicit_of_bare (h : node.bare = holding name rule) : node.explicit = rule.isSome := by
  have hexplicit : node.bare.explicit = rule.isSome := by
    rw [h]
    cases rule <;> rfl
  exact hexplicit

/-- A node without a rule leaves what it inherits as it is. -/
theorem inert_of_bare (h : node.bare = holding name none) :
    node.mask = .maskNone ∧ node.policy = ∅ ∧ node.exactOnly = false :=
  ⟨congrArg ScopeNode.mask h, congrArg ScopeNode.policy h, congrArg ScopeNode.exactOnly h⟩

end ScopeNode

namespace Directive

/-- The name of the scope at keys; that of the root is empty. -/
def nameOf (case : PathCase) (ds : List Directive) (keys : List String) : String :=
  if keys = [] then "" else (spelling? case ds keys).getD ""

/-- What is at keys: the name is the one that `read` spell first, the rule the one that `ds`
leave in force. -/
def content (case : PathCase) (read ds : List Directive) (keys : List String) : ScopeNode :=
  .holding (nameOf case read keys) (inForce? case ds keys)

variable {case : PathCase} {read ds : List Directive} {d : Directive} {keys cs : List String}

theorem spelling?_eq_nameOf (hne : keys ≠ []) (h : Leads case ds keys) :
    spelling? case ds keys = some (nameOf case ds keys) := by
  obtain ⟨name, hname⟩ := Option.isSome_iff_exists.1 (isSome_spelling?_iff.2 h)
  rw [nameOf, if_neg hne, hname, Option.getD_some]

/-- What has a name keeps it. -/
theorem nameOf_append_of_leads (h : keys = [] ∨ Leads case ds keys) (more : List Directive) :
    nameOf case (ds ++ more) keys = nameOf case ds keys := by
  rw [nameOf, nameOf]
  split
  · rfl
  · rw [spelling?_append (h.resolve_left ‹_›)]

/-- What has no name gets the one that a directive spells. -/
theorem nameOf_concat_of_not_leads (hd : Path.components d.path = .ok cs) {ys : List String}
    {x : String} (hpre : ys ++ [x] <+: cs) (h : ¬ Leads case ds ((ys ++ [x]).map case.key)) :
    nameOf case (ds ++ [d]) ((ys ++ [x]).map case.key) = x := by
  rw [← isSome_spelling?_iff, Option.not_isSome_iff_eq_none] at h
  rw [nameOf, if_neg (by simp), spelling?_concat hd, h, Option.none_or,
    if_pos (hpre.map case.key), List.length_map]
  obtain ⟨rest, rfl⟩ := hpre
  simp

/-- Where directives do not lead, none is in force. -/
theorem inForce?_of_not_leads (h : ¬ Leads case ds keys) : inForce? case ds keys = none := by
  rw [← Option.not_isSome_iff_eq_none]
  exact fun hsome => h (leads_of_inForce? hsome)

/-- What is there stays when more directives are read. -/
theorem content_append_of_leads (h : keys = [] ∨ Leads case read keys) (more : List Directive) :
    content case (read ++ more) ds keys = content case read ds keys := by
  rw [content, nameOf_append_of_leads h, content]

/-- What was not there is only passed. -/
theorem content_of_not_leads (hd : Path.components d.path = .ok cs) {ys : List String}
    {x : String} (hpre : ys ++ [x] <+: cs) (h : ¬ Leads case ds ((ys ++ [x]).map case.key)) :
    content case (ds ++ [d]) ds ((ys ++ [x]).map case.key) = .routing x := by
  rw [content, nameOf_concat_of_not_leads hd hpre h, inForce?_of_not_leads h]
  rfl

/-- In the end the rule is set at the keys of the directive. -/
theorem content_concat_self (hkeys : d.keys? case = some keys) :
    content case read (ds ++ [d]) keys = (content case read ds keys).withRule d.rule := by
  rw [content, inForce?_concat, if_pos hkeys, content, ScopeNode.withRule_holding]

theorem content_concat_of_ne (hne : d.keys? case ≠ some keys) :
    content case read (ds ++ [d]) keys = content case read ds keys := by
  rw [content, inForce?_concat, if_neg hne, content]

end Directive

/-! ## One directive more -/

namespace Arena

/-- An arena keeps directives that were inserted while others were read: it has scopes at the
positions of some keys that `read` lead through, and of all keys that `ds` do, with the names
that `read` spell and the rules that `ds` leave in force. -/
structure Keeps (a : Arena) (case : PathCase) (read ds : List Directive)
    (paths : List (List String)) : Prop where
  case_eq : a.case = case
  room : a.nodes.length ≤ maxNodes
  indexed : a.Indexed (Directive.content case read ds) paths
  leads : ∀ keys ∈ paths, keys = [] ∨ Directive.Leads case read keys
  mem_of_leads : ∀ keys, keys = [] ∨ Directive.Leads case ds keys → keys ∈ paths

/-- An arena has the scopes of directives and no others. -/
def Holds (a : Arena) (case : PathCase) (ds : List Directive) (paths : List (List String)) : Prop :=
  a.Keeps case ds ds paths

variable {a : Arena} {case : PathCase} {read ds : List Directive} {paths : List (List String)}

theorem Holds.mem_paths (h : a.Holds case ds paths) (keys : List String) :
    keys ∈ paths ↔ keys = [] ∨ Directive.Leads case ds keys :=
  ⟨h.leads keys, h.mem_of_leads keys⟩

/-- What is read later changes nothing that is there. -/
theorem Keeps.append (h : a.Keeps case read ds paths) (more : List Directive) :
    a.Keeps case (read ++ more) ds paths where
  case_eq := h.case_eq
  room := h.room
  indexed := h.indexed.congr fun keys hkeys =>
    Directive.content_append_of_leads (h.leads keys hkeys) more
  leads keys hkeys := (h.leads keys hkeys).imp_right (·.append more)
  mem_of_leads := h.mem_of_leads

theorem children_empty (case : PathCase) (i : Nat) :
    (ArenaBuilder.empty case).arena.children i = [] := by
  cases i <;> rfl

/-- At first there is the root. -/
theorem holds_empty (case : PathCase) : (ArenaBuilder.empty case).arena.Holds case [] [[]] where
  case_eq := rfl
  room := show 1 ≤ maxNodes by decide
  indexed := by
    have honly {i : Nat} {p : List String} (hp : [([] : List String)][i]? = some p) :
        i = 0 ∧ p = [] := by
      simpa [List.getElem?_singleton, eq_comm] using hp
    constructor
    case length => rfl
    case root => rfl
    case nodup => exact List.nodup_singleton _
    case parent => exact fun hp => absurd (honly hp).2 (by simp)
    case ascending => exact fun i => by rw [children_empty]; exact .nil
    case mem_children =>
      intro i p hp k j
      obtain ⟨-, rfl⟩ := honly hp
      rw [children_empty]
      exact iff_of_false List.not_mem_nil fun hchild => absurd (honly hchild).2 (by simp)
    case content =>
      intro i p hp
      obtain ⟨rfl, rfl⟩ := honly hp
      rfl
  leads keys hkeys := .inl (List.mem_singleton.1 hkeys)
  mem_of_leads keys hkeys := by simpa [Directive.Leads] using hkeys

/-- Where directives lead further, there is a child. -/
theorem Keeps.children_ne_nil (h : a.Keeps case read ds paths) {j : Nat} {q : List String}
    {k : String} (hq : paths[j]? = some q) (hmem : q ++ [k] ∈ paths) : a.children j ≠ [] := by
  obtain ⟨m, hm⟩ := List.mem_iff_getElem?.1 hmem
  have hchild := (h.indexed.mem_children hq k m).2 hm
  exact List.ne_nil_of_mem hchild

/-- At the position of some keys there is what directives leave there. -/
theorem Keeps.exists_node (h : a.Keeps case read ds paths) {i : Nat} {p : List String}
    (hp : paths[i]? = some p) :
    ∃ node, a.nodes[i]? = some node ∧ node.bare = Directive.content case read ds p :=
  Option.map_eq_some_iff.1 (h.indexed.content hp)

/-- Every node is what directives leave at some keys. -/
theorem Keeps.exists_keys (h : a.Keeps case read ds paths) {i : Nat} {node : ScopeNode}
    (hnode : a.nodes[i]? = some node) :
    ∃ p, paths[i]? = some p ∧ node.bare = Directive.content case read ds p := by
  have hlt := (List.getElem?_eq_some_iff.1 hnode).1
  obtain ⟨p, hp⟩ : ∃ p, paths[i]? = some p :=
    ⟨_, List.getElem?_eq_getElem (h.indexed.length ▸ hlt)⟩
  obtain ⟨node', hnode', hbare⟩ := h.exists_node hp
  obtain rfl := Option.some.inj (hnode.symm.trans hnode')
  exact ⟨p, hp, hbare⟩

/-- Where inserted directives lead, a scope with nothing below it has a rule. -/
theorem Keeps.explicit_of_leads (h : a.Keeps case read ds paths) {j : Nat} {node : ScopeNode}
    {q : List String} (hq : paths[j]? = some q) (hleads : Directive.Leads case ds q)
    (hnode : a.nodes[j]? = some node) (hempty : node.children = []) : node.explicit = true := by
  obtain ⟨q', hq', hbare⟩ := h.exists_keys hnode
  obtain rfl := Option.some.inj (hq.symm.trans hq')
  rw [ScopeNode.explicit_of_bare hbare, Directive.inForce?_isSome_iff]
  obtain ⟨d, hd, whole, hwhole, rest, rfl⟩ := hleads
  cases rest with
  | nil => exact ⟨d, hd, by rw [hwhole, List.append_nil]⟩
  | cons k rest =>
      -- The directive leads further, so that there is a child.
      have hmem : q ++ [k] ∈ paths :=
        h.mem_of_leads _ (.inr ⟨d, hd, _, hwhole, rest, by rw [← List.append_cons]⟩)
      refine absurd ?_ (h.children_ne_nil hq hmem)
      rw [children, hnode, Option.elim_some, hempty]

/-- All scopes but one, and the root, that have nothing below them have rules.  There is no room
for another scope. -/
structure Full (a : Arena) : Prop where
  nodeCount : a.nodeCount = maxNodes
  leaf : ∃ last, ∀ j node, 0 < j → j ≠ last → a.nodes[j]? = some node → node.children = [] →
    node.explicit = true

/-- Where there is no room for the scopes of a directive, those that were added for it end in one
with nothing below it. -/
theorem Holds.full_of_reached (h : a.Holds case ds paths) {d : Directive} {cs ys : List String}
    {x : String} {grown : Arena} {paths' : List (List String)}
    (hd : Path.components d.path = .ok cs) (hpre : ys ++ [x] <+: cs)
    (hreached : Indexed.Reached a (Directive.content case (ds ++ [d]) ds) paths [] ys grown paths')
    (hlength : grown.nodes.length = maxNodes) (hmissing : (ys ++ [x]).map case.key ∉ paths') :
    grown.Keeps case (ds ++ [d]) ds paths' ∧ grown.Full ∧
      ¬ Directive.Fits case (ds ++ [d]) := by
  obtain rfl := h.case_eq
  have hkeys := Directive.keys?_of_components hd a.case
  have hleads {zs : List String} (hzs : zs <+: cs) :
      Directive.Leads a.case (ds ++ [d]) (zs.map a.case.key) :=
    ⟨d, by simp, _, hkeys, hzs.map a.case.key⟩
  have hkeeps : grown.Keeps a.case (ds ++ [d]) ds paths' := by
    refine ⟨hreached.case_eq, hreached.room, hreached.indexed, fun keys hmem => ?_,
      fun keys hmem => (hreached.mem_paths keys).2 (.inl (h.mem_of_leads keys hmem))⟩
    rcases (hreached.mem_paths keys).1 hmem with hmem | ⟨zs, hzs, rfl⟩
    · exact (h.leads keys hmem).imp_right (·.append [d])
    · exact .inr (hleads (hzs.trans ((List.prefix_append ys [x]).trans hpre)))
  refine ⟨hkeeps, ⟨hlength, ?_⟩, fun hfits => ?_⟩
  · have hend : ys.map a.case.key ∈ paths' := (hreached.mem_paths _).2 (.inr ⟨ys, by simp⟩)
    obtain ⟨last, hlast⟩ := List.mem_iff_getElem?.1 hend
    refine ⟨last, fun j node hpos hne hnode hempty => ?_⟩
    obtain ⟨q, hq, -⟩ := hkeeps.exists_keys hnode
    rcases (hreached.mem_paths q).1 (List.mem_of_getElem? hq) with hmem | ⟨zs, ⟨rest, rfl⟩, rfl⟩
    · rcases h.leads q hmem with rfl | hleads
      · exact absurd (hkeeps.indexed.position_eq hq hkeeps.indexed.root) (Nat.ne_of_gt hpos)
      · exact hkeeps.explicit_of_leads hq hleads hnode hempty
    · cases rest with
      | nil =>
          rw [List.append_nil] at hlast
          exact absurd (hkeeps.indexed.position_eq hq hlast) hne
      | cons z rest =>
          -- The way goes on.
          have hmem : [] ++ zs.map a.case.key ++ [a.case.key z] ∈ paths' :=
            (hreached.mem_paths _).2 (.inr ⟨zs ++ [z], ⟨rest, by simp⟩, by simp⟩)
          refine absurd ?_ (hkeeps.children_ne_nil hq hmem)
          rw [children, hnode, Option.elim_some, hempty]
  · -- One scope more than there is room for would be needed.
    have hlong := hfits.length_le (List.nodup_cons.2 ⟨hmissing, hkeeps.indexed.nodup⟩)
      (List.forall_mem_cons.2 ⟨.inr (hleads hpre), hkeeps.leads⟩)
    rw [List.length_cons, hkeeps.indexed.length, hlength] at hlong
    exact Nat.not_succ_le_self _ hlong

/-- To insert the rule of a directive puts it in force, or else there is no room for its
scopes. -/
theorem Holds.insert_or_full (h : a.Holds case ds paths) {d : Directive} {cs : List String}
    (hd : Path.components d.path = .ok cs) :
    (∃ last grown paths', a.reach 0 cs = (.ok last, grown) ∧
      (grown.setRule last d.rule).Holds case (ds ++ [d]) paths') ∨
    ∃ grown paths', a.reach 0 cs = (.error .noRoom, grown) ∧
      grown.Keeps case (ds ++ [d]) ds paths' ∧ grown.Full ∧
      ¬ Directive.Fits case (ds ++ [d]) := by
  have hunderway := (h.append [d]).indexed
  obtain rfl := h.case_eq
  have hkeys := Directive.keys?_of_components hd a.case
  have hfresh (ys : List String) (x : String) (hpre : ys ++ [x] <+: cs)
      (hnot : (ys ++ [x]).map a.case.key ∉ paths) :=
    Directive.content_of_not_leads hd hpre fun hleads => hnot (h.mem_of_leads _ (.inr hleads))
  rcases hunderway.reach hunderway.root h.room cs hfresh with
    ⟨last, grown, paths', hreach, hreached, hlast⟩ |
    ⟨ys, x, grown, paths', hpre, hreach, hreached, hlength, hmissing⟩
  · have hmem (keys : List String) :
        keys ∈ paths' ↔ keys = [] ∨ Directive.Leads a.case (ds ++ [d]) keys := by
      rw [hreached.mem_paths, h.mem_paths, Directive.leads_concat, hkeys, or_assoc]
      simp [List.prefix_map_iff]
    have hindexed : (grown.setRule last d.rule).Indexed
        (Directive.content a.case (ds ++ [d]) (ds ++ [d])) paths' :=
      hreached.indexed.setRule hlast d.rule (Directive.content_concat_self hkeys) fun keys _ hne =>
        Directive.content_concat_of_ne (by simpa [hkeys] using Ne.symm hne)
    have hroom : (grown.setRule last d.rule).nodes.length ≤ maxNodes :=
      (length_setRule ..).trans_le hreached.room
    exact .inl ⟨last, grown, paths', hreach, hreached.case_eq, hroom, hindexed,
      fun keys => (hmem keys).1, fun keys => (hmem keys).2⟩
  · exact .inr ⟨grown, paths', hreach, h.full_of_reached hd hpre hreached hlength hmissing⟩

/-! ## Well-formed arenas -/

/-- What holds of every arena to which directives are applied. -/
structure WellFormed (a : Arena) : Prop where
  /-- A machine word tells each scope. -/
  room : a.nodes.length ≤ maxNodes
  /-- Children ascend by the bytes of their keys. -/
  ascending : ∀ i, (a.children i).Pairwise fun c c' => Text.encodeUtf8 c.1 < Text.encodeUtf8 c'.1
  /-- Children come after their parents. -/
  later : ∀ i j k, (k, j) ∈ a.children i → i < j ∧ j < a.nodes.length
  /-- Every scope but the root is the child of one other scope, under one key. -/
  parent : ∀ j, 0 < j → j < a.nodes.length → ∃! e : Nat × String, (e.2, j) ∈ a.children e.1
  /-- One way leads down to every scope. -/
  trail : ∀ j, j < a.nodes.length → ∃! steps, a.Trail steps j
  /-- No way is longer than a path can be. -/
  depth : ∀ steps j, a.Trail steps j → steps.length ≤ maxDepth
  /-- The key of a child is that of its name. -/
  key : ∀ i j k, (k, j) ∈ a.children i → a.nodes[j]?.map (a.case.key ·.name) = some k
  /-- A scope without a rule leaves what it inherits as it is. -/
  inert : ∀ node ∈ a.nodes, node.explicit = false →
    node.mask = .maskNone ∧ node.policy = ∅ ∧ node.exactOnly = false

/-- An arena has no scopes but those of directives. -/
structure Complete (a : Arena) (case : PathCase) (ds : List Directive) : Prop where
  /-- A scope with nothing below it has a rule, unless it is the root. -/
  leaf : ∀ j node, 0 < j → a.nodes[j]? = some node → node.children = [] → node.explicit = true
  /-- There are as many scopes as directives lead through different keys. -/
  nodeCount : a.nodeCount = (Directive.keyPrefixes case ds).dedup.length

namespace Keeps

/-- Below the root, nodes have the names that were spelled first. -/
theorem name_eq (h : a.Keeps case read ds paths) {i : Nat} {p : List String}
    (hp : paths[i]? = some p) (hne : p ≠ []) :
    a.nodes[i]?.map (·.name) = Directive.spelling? case read p := by
  obtain ⟨node, hnode, hbare⟩ := h.exists_node hp
  have hleads := (h.leads p (List.mem_of_getElem? hp)).resolve_left hne
  rw [hnode, Option.map_some, ScopeNode.name_of_bare hbare,
    Directive.spelling?_eq_nameOf hne hleads]

theorem key_eq (h : a.Keeps case read ds paths) {i j : Nat} {k : String}
    (hchild : (k, j) ∈ a.children i) : a.nodes[j]?.map (a.case.key ·.name) = some k := by
  obtain ⟨p, -, hj⟩ := h.indexed.of_mem_children hchild
  have hname := h.name_eq hj (by simp)
  obtain ⟨node, hnode, -⟩ := h.exists_node hj
  rw [hnode, Option.map_some] at hname ⊢
  rw [h.case_eq, Directive.key_of_spelling? hname.symm]

theorem wellFormed (h : a.Keeps case read ds paths) : a.WellFormed where
  room := h.room
  ascending i := (h.indexed.ascending i).imp Text.encodeUtf8_lt_iff.2
  later i j k := h.indexed.later
  parent j hpos hlt := by
    obtain ⟨i, k, hchild⟩ := h.indexed.exists_parent hpos hlt
    refine ⟨(i, k), hchild, fun e he => ?_⟩
    obtain ⟨rfl, rfl⟩ := h.indexed.parent_unique he hchild
    rfl
  trail j hlt := by
    obtain ⟨steps, ht⟩ := h.indexed.exists_trail hlt
    exact ⟨steps, ht, fun steps' ht' => h.indexed.trail_unique ht' ht⟩
  depth steps j ht := by
    rw [← List.length_map (·.1)]
    have hmem := List.mem_of_getElem? (h.indexed.getElem?_of_trail ht)
    rcases h.leads _ hmem with hnil | hleads
    · rw [hnil]
      exact Nat.zero_le _
    · exact Directive.length_le_of_leads hleads
  key i j k := h.key_eq
  inert node hnode hexplicit := by
    obtain ⟨i, hi⟩ := List.mem_iff_getElem?.1 hnode
    obtain ⟨p, -, hbare⟩ := h.exists_keys hi
    rw [ScopeNode.explicit_of_bare hbare, ← Bool.not_eq_true, Option.not_isSome_iff_eq_none]
      at hexplicit
    rw [Directive.content, hexplicit] at hbare
    exact ScopeNode.inert_of_bare hbare

end Keeps

namespace Holds

theorem complete (h : a.Holds case ds paths) : a.Complete case ds where
  leaf j node hpos hnode hempty := by
    obtain ⟨q, hq, -⟩ := h.exists_keys hnode
    rcases h.leads q (List.mem_of_getElem? hq) with rfl | hleads
    · exact absurd (h.indexed.position_eq hq h.indexed.root) (Nat.ne_of_gt hpos)
    · exact h.explicit_of_leads hq hleads hnode hempty
  nodeCount := by
    rw [nodeCount, ← h.indexed.length]
    refine Directive.length_dedup_eq h.indexed.nodup fun keys => ?_
    rw [h.mem_paths, Directive.mem_keyPrefixes]

/-- What an arena holds has room in it. -/
theorem fits (h : a.Holds case ds paths) : Directive.Fits case ds := by
  rw [Directive.Fits, ← h.complete.nodeCount]
  exact h.room

/-- A walk from the root finds what directives leave at the keys of its components. -/
theorem exists_find? (h : a.Holds case ds paths) {path : List String}
    (hpath : path.map case.key ∈ paths) : ∃ node, a.find? path = some node ∧
      node.bare = Directive.content case ds ds (path.map case.key) := by
  obtain ⟨i, hi⟩ := List.mem_iff_getElem?.1 hpath
  obtain ⟨node, hnode, hbare⟩ := h.exists_node hi
  rw [← h.case_eq] at hi
  refine ⟨node, ?_, hbare⟩
  rw [find?, (h.indexed.walk?_eq_some_iff h.indexed.root).2 hi, Option.bind_some, hnode]

/-- Where directives do not lead, nothing is found. -/
theorem find?_eq_none (h : a.Holds case ds paths) {path : List String}
    (hpath : path.map case.key ∉ paths) : a.find? path = none := by
  cases hwalk : a.walk? 0 path with
  | none => rw [find?, hwalk, Option.bind_none]
  | some i =>
      have hi := (h.indexed.walk?_eq_some_iff h.indexed.root).1 hwalk
      rw [h.case_eq] at hi
      exact absurd (List.mem_of_getElem? hi) hpath

/-- An arena and scopes in which the same directives were inserted have the same rules. -/
theorem rule?_find? (h : a.Holds case ds paths) {s : Scope} (hs : s.Holds case ds)
    (path : List String) :
    (a.find? path).map (·.rule?) = (s.at? (path.map case.key)).map (·.rule) := by
  have hscope := (hs.isSome_at? (path.map case.key)).trans (h.mem_paths _).symm
  have hrule := hs.ruleAt? (path.map case.key)
  by_cases hpath : path.map case.key ∈ paths
  · obtain ⟨node, hnode, hbare⟩ := h.exists_find? hpath
    obtain ⟨t, ht⟩ := Option.isSome_iff_exists.1 (hscope.2 hpath)
    rw [Scope.ruleAt?, ht, Option.bind_some] at hrule
    rw [hnode, ht, Option.map_some, Option.map_some, ScopeNode.rule?_of_bare hbare, hrule]
  · have hnone : s.at? (path.map case.key) = none := by
      rwa [← hscope, Option.not_isSome_iff_eq_none] at hpath
    rw [h.find?_eq_none hpath, hnone]
    rfl

/-- And the same names. -/
theorem name_find? (h : a.Holds case ds paths)
    (hds : ∀ d ∈ ds, ∃ cs, Path.components d.path = .ok cs) (path : List String) :
    (a.find? path).map (·.name) =
      (Scope.blank.insertAll case ds).nameAt? "" (path.map case.key) := by
  rw [Scope.nameAt?_insertAll case ds hds]
  by_cases hpath : path.map case.key ∈ paths
  · obtain ⟨node, hnode, hbare⟩ := h.exists_find? hpath
    rw [hnode, Option.map_some, ScopeNode.name_of_bare hbare]
    split
    · rw [Directive.nameOf, if_pos ‹_›]
    · rename_i hne
      rw [Directive.spelling?_eq_nameOf hne (((h.mem_paths _).1 hpath).resolve_left hne)]
  · rw [h.find?_eq_none hpath]
    rw [h.mem_paths, not_or, ← Directive.isSome_spelling?_iff, Option.not_isSome_iff_eq_none]
      at hpath
    rw [if_neg hpath.1, hpath.2]
    rfl

end Holds

end Arena

/-! ## Any directives -/

/-- An arena has the scopes below a root, and the root itself: the same components lead to
the same names and rules. -/
structure Arena.Mirrors (a : Arena) (root : Scope) : Prop where
  rule : ∀ path, (a.find? path).map (·.rule?) = (root.at? (path.map a.case.key)).map (·.rule)
  name : ∀ path, (a.find? path).map (·.name) = root.nameAt? "" (path.map a.case.key)

namespace ArenaBuilder

variable {case : PathCase} {ds before after : List Directive} {d : Directive} {e : BuildError}

theorem applyAll_append (b : ArenaBuilder) (ds more : List Directive) :
    b.applyAll (ds ++ more) = (b.applyAll ds).applyAll more :=
  List.foldl_append

/-- After an error, directives are only counted. -/
theorem applyAll_of_error {b : ArenaBuilder} (hb : b.error.isSome = true) (ds : List Directive) :
    b.applyAll ds = { b with applied := b.applied + ds.length } := by
  induction ds generalizing b with
  | nil => rfl
  | cons d ds ih =>
      have hd : b.apply d = { b with applied := b.applied + 1 } := if_pos hb
      have hds := ih (b := b.apply d) (by rw [hd]; exact hb)
      rw [applyAll, List.foldl_cons, ← applyAll, hds, hd, List.length_cons]
      simp only [Nat.add_assoc, Nat.add_comm 1]

/-- Admissible directives are all inserted. -/
theorem applyAll_of_admissible (h : Directive.Admissible case ds) :
    ∃ a paths, (empty case).applyAll ds = ⟨a, ds.length, none⟩ ∧ a.Holds case ds paths := by
  induction ds using List.reverseRecOn with
  | nil => exact ⟨_, _, rfl, Arena.holds_empty case⟩
  | append_singleton ds d ih =>
      obtain ⟨a, paths, happly, ha⟩ := ih h.of_append
      obtain ⟨cs, hd⟩ := h.splits d (by simp)
      rcases ha.insert_or_full hd with
        ⟨last, grown, paths', hreach, hholds⟩ | ⟨-, -, -, -, -, hfull⟩
      · refine ⟨_, paths', ?_, hholds⟩
        rw [applyAll_append, happly, List.length_append]
        simp [applyAll, apply, hd, hreach]
      · exact absurd h.fits hfull

/-- A defect is kept.  If there is no room for the scopes of the directive, some of them may have
been added. -/
theorem apply_of_defect {a : Arena} {paths : List (List String)} (ha : a.Holds case before paths)
    (hd : Directive.Defect case before d e) :
    ∃ grown paths', apply ⟨a, before.length, none⟩ d = ⟨grown, before.length + 1, some e⟩ ∧
      grown.Keeps case (before ++ [d]) before paths' ∧
      (e = .noRoom → grown.Full) ∧ (e ≠ .noRoom → grown.Holds case before paths') := by
  cases hd with
  | malformed hd =>
      exact ⟨a, paths, by simp [apply, hd], ha.append [d], nofun, fun _ => ha⟩
  | @noRoom cs hd hfits =>
      rcases ha.insert_or_full hd with
        ⟨last, grown, paths', hreach, hholds⟩ | ⟨grown, paths', hreach, hkeeps, hfull, -⟩
      · exact absurd hholds.fits hfits
      · exact ⟨grown, paths', by simp [apply, hd, hreach], hkeeps, fun _ => hfull,
          fun hne => absurd rfl hne⟩

/-- The directives before a defect are inserted; what comes after it is only counted. -/
theorem applyAll_of_defect (hbefore : Directive.Admissible case before)
    (hd : Directive.Defect case before d e) (after : List Directive) :
    ∃ a paths, (empty case).applyAll (before ++ d :: after) =
        ⟨a, (before ++ d :: after).length, some e⟩ ∧
      a.Keeps case (before ++ d :: after) before paths ∧
      (e = .noRoom → a.Full) ∧ (e ≠ .noRoom → a.Holds case before paths) := by
  obtain ⟨a, paths, happly, ha⟩ := applyAll_of_admissible hbefore
  obtain ⟨grown, paths', hdefect, hkeeps, hfull, hholds⟩ := apply_of_defect ha hd
  refine ⟨grown, paths', ?_, ?_, hfull, hholds⟩
  · rw [applyAll_append, happly, applyAll, List.foldl_cons, ← applyAll, hdefect,
      applyAll_of_error rfl]
    simp only [List.length_append, List.length_cons, Nat.add_assoc, Nat.add_comm 1]
  · rw [List.append_cons]
    exact hkeeps.append after

/-- After directives, an arena and a tree that are being built have the accepted ones.  Only where
there was no room for the scopes of a directive, the arena may have some of these besides. -/
structure InStep (b : ArenaBuilder) (m : Builder) (case : PathCase) (ds : List Directive) :
    Prop where
  applied : b.applied = m.applied
  error : b.error = m.error
  case_eq : m.case = case
  root : m.root = Scope.blank.insertAll case (Directive.accepted case ds)
  clear : m.error = none ↔ Directive.Admissible case ds
  keeps : ∃ paths, b.arena.Keeps case ds (Directive.accepted case ds) paths
  holds : b.error ≠ some .noRoom → ∃ paths, b.arena.Holds case (Directive.accepted case ds) paths
  full : b.error = some .noRoom → b.arena.Full ∧ ¬ Directive.Fits case ds

/-- After any directives, both are in step. -/
theorem inStep_applyAll (case : PathCase) (ds : List Directive) :
    ((empty case).applyAll ds).InStep ((Builder.empty case).applyAll ds) case ds := by
  rcases Directive.admissible_or_defect case ds with h | ⟨before, d, after, e, rfl, hbefore, hd⟩
  · obtain ⟨a, paths, happly, ha⟩ := applyAll_of_admissible h
    rw [happly, Builder.applyAll_of_admissible h]
    constructor <;> try rfl
    case root => rw [Directive.accepted_of_admissible h]
    case clear => exact iff_of_true rfl h
    case keeps =>
      rw [Directive.accepted_of_admissible h]
      exact ⟨paths, ha⟩
    case holds =>
      rw [Directive.accepted_of_admissible h]
      exact fun _ => ⟨paths, ha⟩
    case full => exact nofun
  · obtain ⟨a, paths, happly, hkeeps, hfull, hholds⟩ := applyAll_of_defect hbefore hd after
    have hnot : ¬ Directive.Admissible case (before ++ d :: after) := by
      rw [List.append_cons]
      exact fun h => hd.not_admissible h.of_append
    rw [happly, Builder.applyAll_of_defect hbefore hd]
    constructor <;> try rfl
    case root => rw [Directive.accepted_of_defect hbefore hd]
    case clear => exact iff_of_false nofun hnot
    case keeps =>
      rw [Directive.accepted_of_defect hbefore hd]
      exact ⟨paths, hkeeps⟩
    case holds =>
      rw [Directive.accepted_of_defect hbefore hd]
      exact fun hne => ⟨paths, hholds fun heq => hne (congrArg some heq)⟩
    case full =>
      intro heq
      obtain rfl := Option.some.inj heq
      refine ⟨hfull rfl, fun hfits => ?_⟩
      cases hd with
      | noRoom _ hfull =>
          rw [List.append_cons] at hfits
          exact hfull hfits.of_append

variable {b : ArenaBuilder} {m : Builder}

namespace InStep

theorem mirrors (h : b.InStep m case ds) (hroom : b.error ≠ some .noRoom) :
    b.arena.Mirrors m.root := by
  obtain ⟨paths, harena⟩ := h.holds hroom
  have hsplits := (Directive.admissible_accepted case ds).splits
  have hroot := Scope.holds_insertAll case (Directive.accepted case ds) hsplits
  constructor
  · intro path
    rw [h.root, harena.case_eq]
    exact harena.rule?_find? hroot path
  · intro path
    rw [h.root, harena.case_eq]
    exact harena.name_find? hsplits path

/-- An arena is finished where a tree is, and nothing changes in it then. -/
theorem build_eq (h : b.InStep m case ds) : b.build = m.build.map fun _ => b.arena := by
  rw [build, Builder.build, ← h.error]
  cases herror : b.error with
  | some e => rfl
  | none =>
      have hroot := (h.mirrors (by simp [herror])).rule []
      have hnode : b.arena.nodes[0]?.map (·.rule?) = some m.root.rule := hroot
      obtain ⟨node, hnode, hrule⟩ := Option.map_eq_some_iff.1 hnode
      rw [hnode, Option.any_some, ← hrule, ScopeNode.rule?]
      cases node.explicit <;> rfl

end InStep

/-- The arena of the sample directives: the first spelling of each name, and the rule that
was set last. -/
example : ((empty .insensitive).applyAll ScopeTree.sampleDirectives).arena.nodes =
    [⟨"", .maskAll, .allowRead, true, false, [("src", 1)]⟩,
      ⟨"src", .maskNone, ∅, false, false, [("gen", 2)]⟩,
      ⟨"gen", .maskNone, .allowWrite, true, false, [("tool", 3)]⟩,
      ⟨"tool", .maskAll, .allowEnumerate, true, true, []⟩] := by
  decide +kernel

end ArenaBuilder

end AccessPolicy
