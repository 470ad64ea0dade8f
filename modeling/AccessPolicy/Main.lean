import AccessPolicy.Command

/-!
# AccessPolicy.Main

The command line.
-/

namespace AccessPolicy

/-- The content of a file, or the reason that it cannot be read. -/
def readFile (path : String) : IO (Except String (List UInt8)) := do
  try
    let bytes ← IO.FS.readBinFile path
    return .ok bytes.toList
  catch
    | .noFileOrDirectory .. => return .error "No such file or directory (os error 2)"
    | e => return .error (toString e)

end AccessPolicy

open AccessPolicy in
/-- Run the command of the arguments. -/
def main (args : List String) : IO UInt32 := do
  match Command.parse args with
  | none =>
      IO.eprintln "usage: resolve MANIFEST PATH... | check MANIFEST --op OP PATH | dump MANIFEST"
      return UInt32.ofNat Command.usageStatus
  | some command =>
      let result := command.run .plain (← readFile command.manifest)
      IO.print result.output
      match result.verdict with
      | .error (.complaint c) => IO.eprintln c.text
      | .error .breakdown => IO.eprintln "the indentation of a scope is too wide"
      | .ok _ => pure ()
      return UInt32.ofNat result.status
