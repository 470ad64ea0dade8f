import AccessPolicy.Accounting.Counters
import AccessPolicy.PolicyBits

/-!
# AccessPolicy.Operation

The kinds of access to a file system: what each requires of a policy, how it is
counted, and the codes and names by which it is known.
-/

namespace AccessPolicy

/-- A kind of access. -/
inductive Operation where
  /-- Reading file contents. -/
  | read
  /-- Writing file contents. -/
  | write
  /-- Asking whether a path exists, or for its attributes. -/
  | probe
  /-- Listing a directory. -/
  | enumerateDirectory
  /-- Deleting a file or directory. -/
  | delete
  /-- Renaming or moving a file or directory. -/
  | rename
  /-- Creating a directory. -/
  | createDirectory
  deriving DecidableEq, Repr

namespace Operation

/-- All operations, in the order of their codes. -/
def all : List Operation :=
  [.read, .write, .probe, .enumerateDirectory, .delete, .rename, .createDirectory]

/-! ## Codes and names -/

/-- The code of an operation. -/
def code : Operation → Nat
  | .read => 0
  | .write => 1
  | .probe => 2
  | .enumerateDirectory => 3
  | .delete => 4
  | .rename => 5
  | .createDirectory => 6

/-- The operation of a code. -/
def ofCode? (code : Nat) : Option Operation := all[code]?

/-- The name by which an operation is shown. -/
def name : Operation → String
  | .read => "read"
  | .write => "write"
  | .probe => "probe"
  | .enumerateDirectory => "enumerate"
  | .delete => "delete"
  | .rename => "rename"
  | .createDirectory => "mkdir"

/-- The name by which an operation is stored. -/
def fullName : Operation → String
  | .enumerateDirectory => "enumerate_directory"
  | .createDirectory => "create_directory"
  | op => op.name

/-- The operation of a name of either kind. -/
def ofName? (name : String) : Option Operation :=
  all.find? fun op => name = op.name || name = op.fullName

theorem ofCode?_code (op : Operation) : ofCode? op.code = some op := by cases op <;> rfl

theorem ofName?_name (op : Operation) : ofName? op.name = some op := by cases op <;> decide

theorem ofName?_fullName (op : Operation) : ofName? op.fullName = some op := by
  cases op <;> decide

/-! ## Meaning -/

/-- The permissions that an operation requires. -/
def required : Operation → PolicyBits
  | .read | .probe => .allowRead
  | .enumerateDirectory => .allowEnumerate
  | .write | .delete | .rename => .allowWrite
  | .createDirectory => .allowCreateDirectory

/-- The class under which an operation is counted. -/
def ioClass : Operation → IoClass
  | .read => .read
  | .write => .write
  | _ => .other

/-- Whether an operation leaves the file system as it is. -/
def isReadOnly : Operation → Bool
  | .read | .probe | .enumerateDirectory => true
  | _ => false

/-- Whether an operation may also be covered by the permission for paths at which
there is nothing. -/
def asksForContent : Operation → Bool
  | .read | .probe => true
  | _ => false

end Operation

end AccessPolicy
