import AccessPolicy.Proofs.Resolution

/-!
# AccessPolicy.Proofs.Resuming

Looking for a path in chunks, each from the position at which the one before ended.

* `resolveChunks_eq` — the chunks find what the whole path finds;
* `resolveFrom_of_truncated` — a search that is over finds the same ever after;
* `agree_below_exact` — an exact rule has no part in anything below its path.
-/

namespace AccessPolicy

/-! ## Exact rules further up -/

namespace RuleMap

variable {case : PathCase} {ds : List Directive} {d : Directive} {pre path : List String}

theorem rule?_ofDirectives_concat (case : PathCase) (ds : List Directive) (d : Directive)
    (path : List String) :
    (ofDirectives case (ds ++ [d])).rule? path =
      if d.keys? case = some (path.map case.key) then some d.rule
      else (ofDirectives case ds).rule? path :=
  Directive.inForce?_concat case ds d (path.map case.key)

/-- Where an exact rule, at most, is replaced by an exact one, nothing is inherited. -/
theorem inherited?_concat_of_exact (hkeys : d.keys? case = some (pre.map case.key))
    (hexact : d.rule.kind = .exact)
    (hno : ∀ rule, (ofDirectives case ds).rule? pre = some rule → rule.kind = .exact)
    (p : List String) :
    (ofDirectives case (ds ++ [d])).inherited? p = (ofDirectives case ds).inherited? p := by
  rw [inherited?, inherited?, rule?_ofDirectives_concat]
  by_cases hp : d.keys? case = some (p.map case.key)
  · have hsame : p.map case.key = pre.map case.key := by simpa [hkeys] using hp.symm
    have hrule : (ofDirectives case ds).rule? p = (ofDirectives case ds).rule? pre := by
      simp [ofDirectives, hsame]
    rw [if_pos hp, hrule]
    cases hfound : (ofDirectives case ds).rule? pre with
    | none => simp [Option.filter, hexact]
    | some rule => simp [Option.filter, hexact, hno rule hfound]
  · rw [if_neg hp]

/-- An exact rule has no part in anything below its path. -/
theorem agree_below_exact (hkeys : d.keys? case = some (pre.map case.key))
    (hexact : d.rule.kind = .exact)
    (hno : ∀ rule, (ofDirectives case ds).rule? pre = some rule → rule.kind = .exact)
    (hlt : pre.length < path.length) :
    (ofDirectives case (ds ++ [d])).policy path = (ofDirectives case ds).policy path ∧
      (ofDirectives case (ds ++ [d])).cone path = (ofDirectives case ds).cone path ∧
      (ofDirectives case (ds ++ [d])).matchedDepth path =
        (ofDirectives case ds).matchedDepth path := by
  have hinherited := inherited?_concat_of_exact hkeys hexact hno
  have hused (p : List String) (hp : p ∈ path.inits) :
      (ofDirectives case (ds ++ [d])).used? path p = (ofDirectives case ds).used? path p := by
    have hpre := (List.mem_inits p path).1 hp
    rcases Nat.lt_or_eq_of_le hpre.length_le with hshort | hwhole
    · rw [used?_of_lt hshort, used?_of_lt hshort, hinherited p]
    · have hother : d.keys? case ≠ some (p.map case.key) := by
        intro hsame
        rw [hkeys] at hsame
        have hlen := congrArg List.length (Option.some.inj hsame)
        rw [List.length_map, List.length_map] at hlen
        omega
      rw [used?, used?, rule?_ofDirectives_concat, if_neg hother]
  refine ⟨foldRules_congr hused, foldRules_congr fun p _ => hinherited p, ?_⟩
  exact longestPrefix_congr fun p hp => by rw [hused p hp]

end RuleMap

/-! ## Chunks -/

namespace ScopeTree

/-- Look for a path in chunks, each from the position that the one before has found. -/
def resolveChunks (tree : ScopeTree) (first : List String) (chunks : List (List String)) :
    Resolution :=
  chunks.foldl (fun r chunk => tree.resolveFrom r.cursor chunk)
    (tree.resolveFrom tree.rootCursor first)

/-- The chunks find what the whole path finds. -/
theorem resolveChunks_eq (tree : ScopeTree) (first : List String) (chunks : List (List String)) :
    tree.resolveChunks first chunks = tree.resolveComponents (first ++ chunks.flatten) := by
  rw [resolveChunks, resolveComponents]
  induction chunks generalizing first with
  | nil => simp
  | cons chunk chunks ih =>
      rw [List.foldl_cons, resolveFrom_append, ih, List.flatten_cons, List.append_assoc]

/-- A search that is over finds the same ever after. -/
theorem resolveFrom_of_truncated {tree : ScopeTree} {path : List String}
    (h : (tree.resolveComponents path).truncated = true) (suffix : List String) :
    tree.resolveFrom (tree.resolveComponents path).cursor suffix = tree.resolveComponents path := by
  have hover : (tree.rootCursor.advance tree.case path).truncated = true := by
    simpa [Resolution.truncated, resolveComponents, resolveFrom] using h
  rw [resolveComponents, resolveFrom_append, resolveFrom, resolveFrom, Cursor.advance_append,
    Cursor.advance_of_truncated hover]

/-- **Resumption**: in a tree that was built, a path looked for in chunks is found in
every respect as the whole path is.  Hence a search that is over finds the same ever
after, and an exact directive for the end of an earlier chunk, where there is no scope
rule for it to replace, changes nothing of what is found further down. -/
theorem resolveChunks_exact {case : PathCase} {ds : List Directive} {tree : ScopeTree}
    (h : ofDirectives case ds = .ok tree) (first : List String) (chunks : List (List String)) :
    tree.resolveChunks first chunks = tree.resolveComponents (first ++ chunks.flatten) ∧
      ((tree.resolveChunks first chunks).truncated = true → ∀ suffix,
        tree.resolveFrom (tree.resolveChunks first chunks).cursor suffix =
          tree.resolveChunks first chunks) ∧
      ∀ before after d tree', chunks = before ++ after → after.flatten ≠ [] →
        ofDirectives case (ds ++ [d]) = .ok tree' → d.rule.kind = .exact →
        d.keys? case = some ((first ++ before.flatten).map case.key) →
        (∀ rule, (RuleMap.ofDirectives case ds).rule? (first ++ before.flatten) = some rule →
          rule.kind = .exact) →
          (tree'.resolveChunks first chunks).policy = (tree.resolveChunks first chunks).policy ∧
          (tree'.resolveChunks first chunks).cone = (tree.resolveChunks first chunks).cone ∧
          (tree'.resolveChunks first chunks).matchedDepth =
            (tree.resolveChunks first chunks).matchedDepth := by
  simp only [resolveChunks_eq]
  refine ⟨trivial, resolveFrom_of_truncated, ?_⟩
  rintro before after d tree' rfl hmore h' hexact hkeys hno
  have hlt : (first ++ before.flatten).length < (first ++ (before ++ after).flatten).length := by
    have hpos := List.length_pos_iff.2 hmore
    simp only [List.flatten_append, List.length_append]
    omega
  have hagrees := resolveComponents_agrees h (first ++ (before ++ after).flatten)
  have hagrees' := resolveComponents_agrees h' (first ++ (before ++ after).flatten)
  obtain ⟨hpolicy, hcone, hdepth⟩ := RuleMap.agree_below_exact hkeys hexact hno hlt
  exact ⟨by rw [hagrees.policy, hagrees'.policy, hpolicy],
    by rw [hagrees.cone, hagrees'.cone, hcone],
    by rw [hagrees.matchedDepth, hagrees'.matchedDepth, hdepth]⟩

/-- In the sample, neither the exact rule at the end of the second chunk nor a veto in
its place is seen in the last chunk, with which the search is over. -/
theorem resolveChunks_exact_sample :
    ofDirectives .insensitive sampleDirectives = .ok sampleTree ∧
      sampleTree.resolveChunks ["src"] [["GEN", "tool"], [], ["x"]] =
        sampleTree.resolveComponents ["src", "GEN", "tool", "x"] ∧
      sampleTree.resolveFrom (sampleTree.resolveChunks ["src"] [["GEN", "tool"], [], ["x"]]).cursor
        ["y"] = sampleTree.resolveComponents ["src", "GEN", "tool", "x"] ∧
      ∃ tree', ofDirectives .insensitive
          (sampleDirectives ++ [⟨"/src/gen/TOOL", ⟨.maskAll, .deny, .exact⟩⟩]) = .ok tree' ∧
        (tree'.resolveComponents ["src", "gen", "tool"]).policy = .deny ∧
        (tree'.resolveChunks ["src"] [["GEN", "tool"], [], ["x"]]).policy =
          (sampleTree.resolveComponents ["src", "GEN", "tool", "x"]).policy := by
  obtain ⟨hwhole, hover, hexact⟩ :=
    resolveChunks_exact ofDirectives_sampleDirectives ["src"] [["GEN", "tool"], [], ["x"]]
  have hover := hover rfl ["y"]
  have hveto := (hexact [["GEN", "tool"], []] [["x"]] ⟨"/src/gen/TOOL", ⟨.maskAll, .deny, .exact⟩⟩
    _ rfl (by decide) rfl rfl rfl (by rintro rule ⟨⟩; rfl)).1
  rw [hwhole] at hover hveto
  exact ⟨ofDirectives_sampleDirectives, hwhole, hover, _, rfl, rfl, hveto⟩

end ScopeTree

end AccessPolicy
