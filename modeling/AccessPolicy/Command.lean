import AccessPolicy.Arbiter
import AccessPolicy.Scope.Outline
import AccessPolicy.Stored.Manifest
import AccessPolicy.Stored.Report
import AccessPolicy.Text.Utf8

/-!
# AccessPolicy.Command

The commands by which a manifest is inspected:

```
resolve MANIFEST PATH...          the effective policy of each path
check MANIFEST --op OP PATH       the decision on one access
dump MANIFEST                     the outline of the scope tree
```

Options may stand anywhere behind the name of the command; behind `--` there are
none.  An option with a value takes it from behind an equals sign or from the next
argument, which must not look like an option itself.
-/

namespace AccessPolicy

/-- A command. -/
inductive Command where
  /-- Show the policy of some paths, perhaps as one object a line. -/
  | resolve (manifest : String) (paths : List String) (json : Bool)
  /-- Decide one access, perhaps to a path at which there is nothing, and perhaps
  letting through what no rule covers. -/
  | check (manifest : String) (operation : Operation) (pid : UInt32) (missing permissive : Bool)
      (path : String)
  /-- Show the scope tree. -/
  | dump (manifest : String)
  deriving DecidableEq, Repr

namespace Command

/-! ## Arguments -/

/-- The arguments of a command, told apart. -/
structure Arguments where
  positional : List String
  /-- The options without a value. -/
  flags : List String
  /-- The options with their values. -/
  values : List (String × String)
  deriving DecidableEq, Repr

/-- Whether an argument is an option. -/
def looksLikeOption (arg : String) : Bool :=
  match arg.toList with
  | ['-'] => false
  | '-' :: _ => true
  | _ => false

/-- The name and the value of an argument that has both. -/
def nameAndValue? (arg : String) : Option (String × String) :=
  let cs := arg.toList
  if '=' ∈ cs then
    some (String.ofList (cs.takeWhile (· ≠ '=')), String.ofList ((cs.dropWhile (· ≠ '=')).drop 1))
  else none

/-- Tell arguments apart, given the options without and with a value. -/
def scan (flags values : List String) : List String → Option Arguments
  | [] => some ⟨[], [], []⟩
  | arg :: rest =>
      if arg = "--" then some ⟨rest, [], []⟩
      else if !looksLikeOption arg then
        (scan flags values rest).map fun a => { a with positional := arg :: a.positional }
      else if arg ∈ flags then
        (scan flags values rest).map fun a => { a with flags := arg :: a.flags }
      else if arg ∈ values then
        match rest with
        | value :: rest =>
            if looksLikeOption value then none
            else
              (scan flags values rest).map fun a => { a with values := (arg, value) :: a.values }
        | [] => none
      else
        match nameAndValue? arg with
        | some (name, value) =>
            if name ∈ values then
              (scan flags values rest).map fun a => { a with values := (name, value) :: a.values }
            else none
        | none => none

/-- Whether no option is given twice. -/
def Arguments.distinct (a : Arguments) : Bool :=
  a.flags.Nodup && (a.values.map (·.1)).Nodup

/-- The number of a process: decimal digits, perhaps with a sign. -/
def readPid? (s : String) : Option UInt32 :=
  let (negative, digits) := match s.toList with
    | '+' :: cs => (false, cs)
    | '-' :: cs => (true, cs)
    | cs => (false, cs)
  if digits.isEmpty || !digits.all Char.isDigit then none
  else
    let n := digits.foldl (fun n c => n * 10 + (c.toNat - 0x30)) 0
    if (negative && n ≠ 0) || UInt32.size ≤ n then none else some (UInt32.ofNat n)

/-- The command of some arguments; none if they are not as they should be. -/
def parse : List String → Option Command
  | "resolve" :: args => do
      let a ← scan ["--json"] [] args
      guard a.distinct
      match a.positional with
      | manifest :: path :: paths =>
          guard (manifest ≠ "")
          return .resolve manifest (path :: paths) (a.flags.contains "--json")
      | _ => none
  | "check" :: args => do
      let a ← scan ["--missing", "--permissive"] ["--op", "--pid"] args
      guard a.distinct
      let operation ← (a.values.lookup "--op").bind Operation.ofName?
      let pid ← match a.values.lookup "--pid" with
        | some s => readPid? s
        | none => some 1
      match a.positional with
      | [manifest, path] =>
          guard (manifest ≠ "")
          return .check manifest operation pid (a.flags.contains "--missing")
            (a.flags.contains "--permissive") path
      | _ => none
  | "dump" :: args => do
      let a ← scan [] [] args
      match a.positional with
      | [manifest] =>
          guard (manifest ≠ "")
          return .dump manifest
      | _ => none
  | _ => none

/-- The manifest that a command inspects. -/
def manifest : Command → String
  | .resolve manifest .. => manifest
  | .check manifest .. => manifest
  | .dump manifest => manifest

/-! ## Complaints -/

/-- Why a command failed: what it was doing, and the causes, the nearest first. -/
structure Complaint where
  context : String
  causes : List String
  deriving DecidableEq, Repr

/-- A text behind a label; its lines after the first are indented as far as the
first. -/
def hanging (label text : String) : String :=
  let indent := List.replicate label.length ' '
  label ++ String.ofList (text.toList.flatMap fun c => if c = '\n' then c :: indent else [c])

/-- The causes as they are shown: one alone as it is, several numbered from 0. -/
def Complaint.shownCauses (c : Complaint) : List String :=
  match c.causes with
  | [cause] => [hanging "    " cause]
  | causes => causes.mapIdx fun i cause => hanging ("    " ++ toString i ++ ": ") cause

/-- A complaint as a text, its causes indented below what was being done. -/
def Complaint.text (c : Complaint) : String :=
  "Error: " ++ c.context ++ "\n\nCaused by:" ++ String.join (c.shownCauses.map ("\n" ++ ·))

/-- The causes of a failure to load a manifest, given the words of the reader of its text. -/
def loadCauses (words : Json.Wording) : LoadError → List String
  | .unreadable message => [(LoadError.unreadable message).message words, message]
  | .document text failure =>
      [(LoadError.document text failure).message words, failure.message words text]
  | .build (.malformedPath index source) =>
      [(BuildError.malformedPath index source).message, source.message]
  | .build e => [e.message]

/-- The complaint about a manifest. -/
def loadComplaint (words : Json.Wording) (manifest : String) (e : LoadError) : Complaint :=
  let doing := match e with
    | .build _ => "building "
    | _ => "loading "
  ⟨doing ++ manifest, loadCauses words e⟩

/-- The complaint about a path. -/
def pathComplaint (path : String) (e : PathError) : Complaint :=
  ⟨"resolving " ++ path, [e.message]⟩

/-! ## Running -/

/-- Why a command has come to no verdict. -/
inductive Stop where
  /-- Something was wrong, and it was said what. -/
  | complaint (c : Complaint)
  /-- The program broke down. -/
  | breakdown
  deriving DecidableEq, Repr

/-- What a command has printed, and whether what it was asked for is allowed. -/
structure Result where
  output : String
  verdict : Except Stop Bool

/-- Load a manifest from what a file holds, or from the reason that it cannot be
read. -/
def loadFile (content : Except String (List UInt8)) : Except LoadError (Manifest × ScopeTree) :=
  match content with
  | .error message => .error (.unreadable message)
  | .ok bs =>
      match Text.decodeUtf8 bs with
      | .error _ => .error (.unreadable "stream did not contain valid UTF-8")
      | .ok text => Manifest.load text

/-- The line that shows the policy of a path. -/
def resolutionLine (json : Bool) (path : String) (r : Resolution) : String :=
  if json then
    (Json.Value.object
      [("path", .string path),
       ("policy", r.policy.toValue),
       ("cone", r.cone.toValue),
       ("matched_depth", .ofNat r.matchedDepth),
       ("truncated", .bool r.truncated)]).sorted.text
  else path ++ "\t" ++ r.policy.describe ++ "\tdepth=" ++ toString r.matchedDepth

/-- The lines that show the policies of paths, up to the first that is none. -/
def resolutionLines (tree : ScopeTree) (json : Bool) :
    List String → List String × Except Stop Bool
  | [] => ([], .ok true)
  | path :: paths =>
      match tree.resolve path with
      | .error e => ([], .error (.complaint (pathComplaint path e)))
      | .ok r =>
          let (lines, verdict) := resolutionLines tree json paths
          (resolutionLine json path r :: lines, verdict)

/-- Lines as a text. -/
def unlines (lines : List String) : String := String.join (lines.map (· ++ "\n"))

/-- Show policies. -/
def runResolve (tree : ScopeTree) (json : Bool) (paths : List String) : Result :=
  let (lines, verdict) := resolutionLines tree json paths
  ⟨unlines lines, verdict⟩

/-- Decide an access and show the decision with the reports it led to. -/
def runCheck (tree : ScopeTree) (settings : Settings) (request : Request) : Result :=
  let out := (Arbiter.create tree settings (.collecting [])).arbitrate 0 ∅ request
  let shown := Json.Value.object
    [("path", .string request.path),
     ("operation", .string request.operation.fullName),
     ("action", .string out.decision.action.name),
     ("decision", out.decision.toValue),
     ("reports", .array (out.arbiter.inbox.reports.map Report.toValue))]
  ⟨shown.sorted.pretty ++ "\n", .ok out.decision.allowed⟩

/-- The line above the outline of a scope tree. -/
def heading (tree : ScopeTree) (settings : Settings) : String :=
  "pip " ++ toString settings.pipId.toNat ++ " (" ++ settings.mode.title ++ "): " ++
    toString tree.nodeCount ++ " nodes, " ++ toString tree.explicitCount ++ " rules\n"

/-- Show a scope tree.  The program breaks down below the heading if there is no outline. -/
def runDump (tree : ScopeTree) (settings : Settings) : Result :=
  match tree.outline with
  | some outline => ⟨heading tree settings ++ outline, .ok true⟩
  | none => ⟨heading tree settings, .error .breakdown⟩

/-- Run a command on the content of its manifest, given the words of the reader of its text. -/
def run (words : Json.Wording) (content : Except String (List UInt8)) (command : Command) :
    Result :=
  match loadFile content with
  | .error e => ⟨"", .error (.complaint (loadComplaint words command.manifest e))⟩
  | .ok (m, tree) =>
      match command with
      | .resolve _ paths json => runResolve tree json paths
      | .check _ operation pid missing permissive path =>
          let settings := if permissive then { m.settings with mode := .permissive } else m.settings
          runCheck tree settings
            { path, operation, process := pid, parent := none, bytes := 0,
              targetExists := !missing }
      | .dump _ => runDump tree m.settings

/-- The exit status of a command. -/
def Result.status (r : Result) : Nat :=
  match r.verdict with
  | .ok true => 0
  | .ok false => 1
  | .error (.complaint _) => 1
  | .error .breakdown => 101

/-- The exit status where the arguments are not as they should be. -/
def usageStatus : Nat := 2

end Command

end AccessPolicy
