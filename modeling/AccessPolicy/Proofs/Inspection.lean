import AccessPolicy.Command
import AccessPolicy.Proofs.Printing
import AccessPolicy.Proofs.Simulation
import AccessPolicy.Proofs.Verdicts

/-!
# AccessPolicy.Proofs.Inspection

What the commands print of a path, and that they agree.

A path may be looked at in two ways.  One command resolves it and prints the policy that was
found; the other puts a request to an arbiter that has done nothing yet and prints what the
arbiter decided and reported.  Whatever can be loaded from a file, both have the same tree, so

1. where the path can be resolved, the decision follows the policy that is printed for it;
2. where it cannot, the decision is that of a fault.

* `arbitrate_create` — what such an arbiter decides, and what its sink has then;
* `printed_resolutionLine`, `printed_runCheck` — what a reader finds in both texts;
* `runResolve_agrees_runCheck` — rules 1 and 2;
* `forall₂_resolutionLines` — of several paths, each is printed as if it were alone;
* `views_agree` — all of this, from the content of a file.
-/

namespace AccessPolicy

open Json

/-! ## An arbiter of its own -/

namespace Arbiter

/-- An arbiter that has done nothing yet decides, and its sink collects the report, if there is
one. -/
theorem arbitrate_create (tree : ScopeTree) (settings : Settings) (request : Request) :
    let a := create tree settings (.collecting [])
    let out := a.arbitrate 0 ∅ request
    out.decision = (a.judge request).1.decision ∧
      out.arbiter.inbox.reports = if (a.judge request).1.decision.reported
        then [a.report request (a.judge request).1] else [] := by
  intro a out
  have hout : out = arbitrateOutermost (fun a t _ => passThrough a t) a ∅ request :=
    arbitrateAt_one a ∅ request
  rw [hout, arbitrateOutermost]
  cases hreported : (a.judge request).1.decision.reported with
  | true =>
      simp only [hreported, if_true, true_and]
      rfl
  | false =>
      simp only [hreported, Bool.false_eq_true, if_false, true_and]
      rfl

variable {tree : ScopeTree} {settings : Settings} {sink : Sink} {request : Request}

theorem judge_create_of_ok {found : Resolution} (h : tree.resolve request.path = .ok found) :
    ((create tree settings sink).judge request).1 = .ofResolution settings request found := by
  simp [judge, create, h]

theorem judge_create_of_error {e : PathError} (h : tree.resolve request.path = .error e) :
    ((create tree settings sink).judge request).1 = .failClosed .internalFault := by
  simp [judge, create, h]

end Arbiter

/-- What becomes of an access whose decision follows a policy. -/
theorem Decision.Follows.action_eq {d : Decision} {settings : Settings} {request : Request}
    {policy : PolicyBits} {depth : Nat} (h : d.Follows settings request policy depth) :
    d.action = if request.Covered policy then .allow
      else if settings.mode = .permissive then .warn else .deny := by
  by_cases hcovered : request.Covered policy
  · have hexpected : d.unexpected = false := by
      simpa [hcovered] using h.unexpected
    have hallowed : d.allowed = true := by
      cases hmode : settings.mode with
      | strict => exact (h.strict hmode).2 hcovered
      | permissive => exact h.permissive hmode
    simp [action, hcovered, hexpected, hallowed]
  · have hunexpected : d.unexpected = true := h.unexpected.2 hcovered
    cases hmode : settings.mode with
    | strict =>
        have hdenied : d.allowed = false := by simpa [hcovered] using h.strict hmode
        simp [action, hcovered, hdenied]
    | permissive => simp [action, hcovered, hunexpected, h.permissive hmode]

namespace Command

variable {content : Except String (List UInt8)} {m : Manifest} {tree : ScopeTree}

/-- A file that loads has the text of a manifest. -/
theorem exists_load_of_loadFile (h : loadFile content = .ok (m, tree)) :
    ∃ text, Manifest.load text = .ok (m, tree) := by
  unfold loadFile at h
  split at h
  · cases h
  · split at h
    · cases h
    · exact ⟨_, h⟩

/-- What is loaded is the tree of the manifest. -/
theorem ofDirectives_of_loadFile (h : loadFile content = .ok (m, tree)) :
    ScopeTree.ofDirectives m.case m.directives = .ok tree := by
  obtain ⟨text, hload⟩ := exists_load_of_loadFile h
  unfold Manifest.load at hload
  split at hload
  · cases hload
  · split at hload
    · cases hload
    · rename_i htree
      cases hload
      exact htree

/-! ## Resolving -/

/-- The members of what is printed of a path. -/
def resolutionMembers (path : String) (r : Resolution) : List (String × Value) :=
  [("path", .string path),
   ("policy", r.policy.toValue),
   ("cone", r.cone.toValue),
   ("matched_depth", .ofNat r.matchedDepth),
   ("truncated", .bool r.truncated)]

theorem isNatural_resolutionMembers (path : String) {r : Resolution}
    (h : r.matchedDepth ≤ maxDepth) : (Value.object (resolutionMembers path r)).IsNatural := by
  have hdepth : (Value.ofNat r.matchedDepth).IsNatural :=
    isNatural_ofNat (Nat.lt_of_le_of_lt h (by decide))
  exact ⟨trivial, trivial, trivial, hdepth, trivial, trivial⟩

/-- What is printed of a path can be read. -/
theorem printed_resolutionLine (path : String) {r : Resolution} (h : r.matchedDepth ≤ maxDepth) :
    let line := resolutionLine true path r
    printed (line ++ "\n") "path" readString = some path ∧
      printed (line ++ "\n") "policy" PolicyBits.ofDoc = some r.policy ∧
      printed (line ++ "\n") "matched_depth" readUInt16 = some (UInt16.ofNat r.matchedDepth) := by
  have hwrites := writes_line (isNatural_sorted _ (isNatural_resolutionMembers path h))
  have hkeys : ((resolutionMembers path r).map (·.1)).Nodup := by
    show ["path", "policy", "cone", "matched_depth", "truncated"].Nodup
    decide
  have hdepth : readUInt16 (Value.ofNat r.matchedDepth).toDoc =
      .ok (UInt16.ofNat r.matchedDepth) := by
    have hlt : r.matchedDepth < UInt16.size := Nat.lt_succ_of_le h
    rw [readUInt16, readNat_ofNat hlt]
    rfl
  exact ⟨printed_of_writes hwrites hkeys (v := .string path) (by simp [resolutionMembers]) rfl,
    printed_of_writes hwrites hkeys (v := r.policy.toValue) (by simp [resolutionMembers])
      r.policy.ofDoc_toValue,
    printed_of_writes hwrites hkeys (v := .ofNat r.matchedDepth) (by simp [resolutionMembers])
      hdepth⟩

/-- It is one line. -/
theorem lineFeed_not_mem_resolutionLine (path : String) {r : Resolution}
    (h : r.matchedDepth ≤ maxDepth) : '\n' ∉ (resolutionLine true path r).toList := by
  have hcompact := lineFeed_not_mem_compact _
    (isNatural_sorted _ (isNatural_resolutionMembers path h))
  rwa [resolutionLine, if_pos rfl, Value.text, String.toList_ofList]

/-! ## Deciding -/

/-- The members of what is printed of a decision. -/
def decisionMembers (request : Request) (d : Decision) (reports : List Report) :
    List (String × Value) :=
  [("path", .string request.path),
   ("operation", .string request.operation.fullName),
   ("action", .string d.action.name),
   ("decision", d.toValue),
   ("reports", .array (reports.map Report.toValue))]

theorem isNatural_decisionMembers (request : Request) (d : Decision) (reports : List Report) :
    (Value.object (decisionMembers request d reports)).IsNatural := by
  have hreports : allNatural (reports.map Report.toValue) := by
    induction reports with
    | nil => exact trivial
    | cons r reports ih => exact ⟨Report.isNatural_of_storedAs r.storedAs_toValue, ih⟩
  exact ⟨trivial, trivial, trivial, Decision.isNatural_of_storedAs d.storedAs_toValue, hreports,
    trivial⟩

/-- What is printed of a decision can be read. -/
theorem printed_runCheck (tree : ScopeTree) (settings : Settings) (request : Request) :
    let out := (Arbiter.create tree settings (.collecting [])).arbitrate 0 ∅ request
    let text := (runCheck tree settings request).output
    printed text "action" Action.ofDoc = some out.decision.action ∧
      printed text "decision" Decision.ofDoc = some out.decision ∧
      printed text "reports" (readList Report.ofDoc) = some out.arbiter.inbox.reports := by
  intro out text
  let d := out.decision
  let reports := out.arbiter.inbox.reports
  have hwrites := writes_page (isNatural_sorted _ (isNatural_decisionMembers request d reports))
  have hkeys : ((decisionMembers request d reports).map (·.1)).Nodup := by
    show ["path", "operation", "action", "decision", "reports"].Nodup
    decide
  have hreports : readList Report.ofDoc (Value.array (reports.map Report.toValue)).sorted.toDoc =
      .ok reports := by
    rw [Value.sorted, sortedItems_eq_map, List.map_map]
    refine readList_of_forall₂ ?_
    rw [List.forall₂_map_right_iff]
    exact List.forall₂_same.2 fun r _ => Report.ofDoc_of_storedAs r.storedAs_sorted
  exact ⟨printed_of_writes hwrites hkeys (v := .string d.action.name) (by simp [decisionMembers])
      d.action.ofDoc_name,
    printed_of_writes hwrites hkeys (v := d.toValue) (by simp [decisionMembers])
      (Decision.ofDoc_of_storedAs d.storedAs_sorted),
    printed_of_writes hwrites hkeys (by simp [decisionMembers]) hreports⟩

/-! ## One path -/

/-- What is printed of a decision is what is called for by what is printed of the path. -/
structure Agree (viewed checked : Result) (request : Request) (mode : Mode) (d : Decision) :
    Prop where
  decision : printed checked.output "decision" Decision.ofDoc = some d
  action : printed checked.output "action" Action.ofDoc = some d.action
  status : checked.status = 0 ↔ d.allowed = true
  reported : d.reported = true →
    ∃ r, printed checked.output "reports" (readList Report.ofDoc) = some [r] ∧ r.decision = d
  unreported : d.reported = false →
    printed checked.output "reports" (readList Report.ofDoc) = some []
  resolved : viewed.status = 0 → ∃ policy,
    printed viewed.output "policy" PolicyBits.ofDoc = some policy ∧
      printed viewed.output "matched_depth" readUInt16 = some d.matchedDepth ∧
      (d.unexpected = true ↔ ¬ request.Covered policy) ∧
      d.action = if request.Covered policy then .allow
        else if mode = .permissive then .warn else .deny
  refused : viewed.status ≠ 0 → d.action = .deny ∧ d.reason = .internalFault

theorem runResolve_of_ok {json : Bool} {path : String} {found : Resolution}
    (h : tree.resolve path = .ok found) :
    runResolve tree json [path] = ⟨resolutionLine json path found ++ "\n", .ok true⟩ := by
  simp [runResolve, resolutionLines, h, unlines, String.join]

theorem runResolve_of_error {json : Bool} {path : String} {e : PathError}
    (h : tree.resolve path = .error e) :
    runResolve tree json [path] = ⟨"", .error (.complaint (pathComplaint path e))⟩ := by
  simp [runResolve, resolutionLines, h, unlines, String.join]

/-- A command succeeds iff it says that what it was asked for is allowed. -/
theorem status_eq_zero_iff {r : Result} : r.status = 0 ↔ r.verdict = .ok true := by
  rw [Result.status]
  split <;> simp_all

theorem status_runCheck (tree : ScopeTree) (settings : Settings) (request : Request) :
    (runCheck tree settings request).status = 0 ↔
      ((Arbiter.create tree settings (.collecting [])).arbitrate 0 ∅ request).decision.allowed =
        true := by
  rw [status_eq_zero_iff]
  simp only [runCheck, Except.ok.injEq]

theorem matchedDepth_le_of_resolve {case : PathCase} {ds : List Directive}
    (h : ScopeTree.ofDirectives case ds = .ok tree) {path : String} {found : Resolution}
    (hfound : tree.resolve path = .ok found) : found.matchedDepth ≤ maxDepth := by
  rw [ScopeTree.resolve] at hfound
  cases hpath : Path.components path with
  | error e => simp [hpath, Except.map] at hfound
  | ok cs =>
      obtain rfl : tree.resolveComponents cs = found := by simpa [hpath, Except.map] using hfound
      exact ScopeTree.matchedDepth_le h hpath

/-- Both commands agree on a path. -/
theorem runResolve_agrees_runCheck {case : PathCase} {ds : List Directive}
    (h : ScopeTree.ofDirectives case ds = .ok tree) (settings : Settings) (request : Request) :
    ∃ d, Agree (runResolve tree true [request.path]) (runCheck tree settings request) request
      settings.mode d := by
  obtain ⟨haction, hdecision, hreports⟩ := printed_runCheck tree settings request
  have hstatus := status_runCheck tree settings request
  obtain ⟨hjudged, hinbox⟩ := Arbiter.arbitrate_create tree settings request
  rw [hinbox] at hreports
  rw [hjudged] at haction hdecision hstatus
  refine ⟨_, hdecision, haction, hstatus, fun hreported => ?_, fun hreported => ?_,
    fun hviewed => ?_, fun hviewed => ?_⟩
  · exact ⟨_, by rw [hreports, if_pos hreported], rfl⟩
  · rw [hreports, if_neg (by simp [hreported])]
  · cases hfound : tree.resolve request.path with
    | error e =>
        rw [runResolve_of_error hfound] at hviewed
        cases hviewed
    | ok found =>
        have hdepth := matchedDepth_le_of_resolve h hfound
        have hfollows := Verdict.decision_ofResolution settings request hdepth
        obtain ⟨-, hpolicy, hmatched⟩ := printed_resolutionLine request.path hdepth
        rw [runResolve_of_ok hfound, Arbiter.judge_create_of_ok hfound]
        exact ⟨found.policy, hpolicy, hmatched, hfollows.unexpected, hfollows.action_eq⟩
  · cases hfound : tree.resolve request.path with
    | error e =>
        rw [Arbiter.judge_create_of_error hfound]
        exact ⟨rfl, rfl⟩
    | ok found =>
        rw [runResolve_of_ok hfound] at hviewed
        exact absurd rfl hviewed

/-! ## Several paths -/

theorem toList_unlines (lines : List String) :
    (unlines lines).toList = (lines.map String.toList).flatMap (· ++ ['\n']) := by
  simp [unlines, String.toList_join, List.flatMap_map]

/-- There is one line for each path up to the first that cannot be resolved. -/
theorem forall₂_resolutionLines {case : PathCase} {ds : List Directive}
    (h : ScopeTree.ofDirectives case ds = .ok tree) (paths : List String) :
    List.Forall₂ (fun path line => (runResolve tree true [path]).output = line ++ "\n" ∧
        printed (line ++ "\n") "path" readString = some path)
      (paths.takeWhile fun path => (runResolve tree true [path]).status = 0)
      (resolutionLines tree true paths).1 := by
  induction paths with
  | nil => exact .nil
  | cons path paths ih =>
      rw [List.takeWhile_cons, resolutionLines]
      cases hfound : tree.resolve path with
      | error e =>
          rw [runResolve_of_error hfound]
          exact .nil
      | ok found =>
          have hdepth := matchedDepth_le_of_resolve h hfound
          rw [runResolve_of_ok hfound]
          refine .cons ⟨?_, (printed_resolutionLine path hdepth).1⟩ ih
          rw [runResolve_of_ok hfound]

theorem lineFeed_not_mem_resolutionLines {case : PathCase} {ds : List Directive}
    (h : ScopeTree.ofDirectives case ds = .ok tree) (paths : List String) :
    ∀ line ∈ (resolutionLines tree true paths).1, '\n' ∉ line.toList := by
  induction paths with
  | nil => exact nofun
  | cons path paths ih =>
      rw [resolutionLines]
      cases hfound : tree.resolve path with
      | error e => exact nofun
      | ok found =>
          have hline := lineFeed_not_mem_resolutionLine path (matchedDepth_le_of_resolve h hfound)
          exact List.forall_mem_cons.2 ⟨hline, ih⟩

/-- The command succeeds iff all paths can be resolved. -/
theorem status_runResolve (tree : ScopeTree) (paths : List String) :
    (runResolve tree true paths).status = 0 ↔
      ∀ path ∈ paths, (runResolve tree true [path]).status = 0 := by
  induction paths with
  | nil => exact iff_of_true rfl nofun
  | cons path paths ih =>
      rw [List.forall_mem_cons, ← ih]
      cases hfound : tree.resolve path with
      | error e => simp [runResolve, resolutionLines, hfound, Result.status]
      | ok found => simp [runResolve, resolutionLines, hfound, Result.status]

/-! ## From files -/

theorem run_of_loadFile (words : Wording) (h : loadFile content = .ok (m, tree))
    (manifest : String) :
    (∀ paths json, run words content (.resolve manifest paths json) = runResolve tree json paths) ∧
      ∀ operation pid missing permissive path,
        run words content (.check manifest operation pid missing permissive path) =
          runCheck tree (if permissive then { m.settings with mode := .permissive } else m.settings)
            ⟨path, operation, pid, none, 0, !missing⟩ := by
  simp [run, h]

/-- **Two views**: take whatever file loads as a manifest.  What is printed of a decision on a
path is what is called for by what is printed of the path, if it can be resolved, and that of a
fault otherwise; the command succeeds iff the access is allowed, and it prints the report of
the decision if there is one.  Of several paths, one line each is printed in order, up to the
first that cannot be resolved; a line is what is printed of its path alone. -/
theorem views_agree (words : Wording) (h : loadFile content = .ok (m, tree)) (manifest : String) :
    (∀ operation pid missing permissive path, ∃ d,
      Agree (run words content (.resolve manifest [path] true))
        (run words content (.check manifest operation pid missing permissive path))
        ⟨path, operation, pid, none, 0, !missing⟩
        (if permissive then .permissive else m.settings.mode) d) ∧
    ∀ paths, ∃ lines : List String,
      (run words content (.resolve manifest paths true)).output.toList.splitOn '\n' =
        lines.map String.toList ++ [[]] ∧
      List.Forall₂ (fun path line =>
          (run words content (.resolve manifest [path] true)).output = line ++ "\n" ∧
            printed (line ++ "\n") "path" readString = some path)
        (paths.takeWhile fun path => (run words content (.resolve manifest [path] true)).status = 0)
        lines ∧
      ((run words content (.resolve manifest paths true)).status = 0 ↔
        ∀ path ∈ paths, (run words content (.resolve manifest [path] true)).status = 0) := by
  have htree := ofDirectives_of_loadFile h
  obtain ⟨hresolve, hcheck⟩ := run_of_loadFile words h manifest
  simp only [hresolve, hcheck]
  constructor
  · intro operation pid missing permissive path
    obtain ⟨d, hagree⟩ := runResolve_agrees_runCheck htree
      (if permissive then { m.settings with mode := .permissive } else m.settings)
      ⟨path, operation, pid, none, 0, !missing⟩
    refine ⟨d, ?_⟩
    cases permissive <;> exact hagree
  · intro paths
    refine ⟨(resolutionLines tree true paths).1, ?_, forall₂_resolutionLines htree paths,
      status_runResolve tree paths⟩
    rw [runResolve, toList_unlines]
    refine Text.splitOn_lines (List.forall_mem_map.2 fun line hline c hc hfeed => ?_)
    exact lineFeed_not_mem_resolutionLines htree paths line hline (hfeed ▸ hc)

/-- The file of a manifest that lets everything be read. -/
def readableFile : Except String (List UInt8) := .ok (Text.encodeUtf8 Interceptor.readableText)

theorem loadFile_readableFile :
    loadFile readableFile = .ok (Interceptor.readableManifest, Interceptor.readableTree) := by
  unfold loadFile readableFile
  simp only [Text.decodeUtf8_eq_ok_iff.2 rfl, Interceptor.load_readableText]

/-- Of the sample, a write is let through although it is not covered, a read of what is no path
is denied, and of three paths the first one is printed. -/
theorem views_agree_sample :
    loadFile readableFile = .ok (Interceptor.readableManifest, Interceptor.readableTree) ∧
      printed (run .plain readableFile (.check "m" .write 1 false true "/a")).output "action"
        Action.ofDoc = some .warn ∧
      (∃ d, printed (run .plain readableFile (.check "m" .read 1 true false "a")).output "decision"
          Decision.ofDoc = some d ∧ d.action = .deny ∧ d.reason = .internalFault) ∧
      (∃ line, (run .plain readableFile
        (.resolve "m" ["/a", "b", "/c"] true)).output.toList.splitOn '\n' = [line, []]) ∧
      (run .plain readableFile (.resolve "m" ["/a", "b", "/c"] true)).status ≠ 0 := by
  obtain ⟨hpath, hpaths⟩ := views_agree .plain loadFile_readableFile "m"
  have hresolve := (run_of_loadFile .plain loadFile_readableFile "m").1
  have hviewed : run .plain readableFile (.resolve "m" ["/a"] true) =
      ⟨resolutionLine true "/a" (Interceptor.readableTree.resolveComponents ["a"]) ++ "\n",
        .ok true⟩ := by
    rw [hresolve]
    exact runResolve_of_ok rfl
  have hshown : (run .plain readableFile (.resolve "m" ["/a"] true)).status = 0 := by
    rw [hviewed]
    rfl
  have hnone (path : String) (h : path ∈ ["a", "b"]) :
      (run .plain readableFile (.resolve "m" [path] true)).status ≠ 0 := by
    rw [hresolve]
    revert path
    decide +kernel
  obtain ⟨d, hwrite⟩ := hpath .write 1 false true "/a"
  have haction : d.action = .warn := by
    obtain ⟨policy, hpolicy, -, -, haction⟩ := hwrite.resolved hshown
    have hdepth : (Interceptor.readableTree.resolveComponents ["a"]).matchedDepth ≤ maxDepth := by
      decide +kernel
    have hfound := (printed_resolutionLine "/a" hdepth).2.1
    rw [hviewed, hfound] at hpolicy
    obtain rfl := Option.some.inj hpolicy
    rw [haction]
    decide +kernel
  obtain ⟨e, hread⟩ := hpath .read 1 true false "a"
  obtain ⟨lines, hlines, hforall, hstatus⟩ := hpaths ["/a", "b", "/c"]
  have hfirst : ["/a", "b", "/c"].takeWhile
      (fun path => (run .plain readableFile (.resolve "m" [path] true)).status = 0) = ["/a"] := by
    simp [hshown, hnone "b" (by simp)]
  rw [hfirst] at hforall
  obtain ⟨line, rest, -, hrest, rfl⟩ := List.forall₂_cons_left_iff.1 hforall
  obtain rfl := List.forall₂_nil_left_iff.1 hrest
  exact ⟨loadFile_readableFile, by rw [hwrite.action, haction],
    ⟨e, hread.decision, hread.refused (hnone "a" (by simp))⟩, ⟨line.toList, hlines⟩,
    fun hall => hnone "b" (by simp) (hstatus.1 hall "b" (by simp))⟩

end Command

end AccessPolicy
