import AccessPolicy.Json.Value
import AccessPolicy.Text.Quoted

/-!
# AccessPolicy.Json.Decode

Reading documents as data of known types.

A reader goes through a document from left to right and complains of the first
thing that it cannot accept: a flaw of the text, or a value that does not fit.

* A record is an object with one member for each field, or an array of the fields
  in their order.  Members of other names are passed over, a field given twice is
  refused, and a field that is missing is noticed at the end.
* One of several alternatives is given by its name, or by an object whose single
  member has that name and the value null.
-/

namespace AccessPolicy.Json

/-! ## Complaints -/

/-- What a value turned out to be. -/
inductive Found where
  | null
  | bool (b : Bool)
  | number (n : Number)
  | string (s : String)
  | sequence
  | map
  deriving Repr

/-- What a value turned out to be, in words. -/
def Found.describe : Found → String
  | .null => "null"
  | .bool b => "boolean `" ++ toString b ++ "`"
  | .number (.integer n) => "integer `" ++ toString n ++ "`"
  | .number (.float x) => "floating point `" ++ Text.floatText x ++ "`"
  | .string s => "string " ++ Text.quoted s
  | .sequence => "sequence"
  | .map => "map"

/-- Why a value does not fit. -/
inductive DataError where
  /-- It is of another type. -/
  | invalidType (found : Found) (expected : String)
  /-- It is out of range. -/
  | invalidValue (found : Found) (expected : String)
  /-- It names none of the alternatives. -/
  | unknownVariant (name : String) (known : List String)
  | missingField (name : String)
  | duplicateField (name : String)
  /-- An array has too few items for a record. -/
  | invalidLength (length : Nat) (expected : String)
  /-- It does not read as what it stands for. -/
  | custom (message : String)
  deriving Repr

/-- Alternatives in words. -/
def alternatives (known : List String) : String :=
  match known.map fun name => "`" ++ name ++ "`" with
  | [] => "there are no variants"
  | [a] => "expected " ++ a
  | [a, b] => "expected " ++ a ++ " or " ++ b
  | all => "expected one of " ++ String.intercalate ", " all

/-- The reason in words. -/
def DataError.message : DataError → String
  | .invalidType found expected => "invalid type: " ++ found.describe ++ ", expected " ++ expected
  | .invalidValue found expected =>
      "invalid value: " ++ found.describe ++ ", expected " ++ expected
  | .unknownVariant name known => "unknown variant `" ++ name ++ "`, " ++ alternatives known
  | .missingField name => "missing field `" ++ name ++ "`"
  | .duplicateField name => "duplicate field `" ++ name ++ "`"
  | .invalidLength length expected =>
      "invalid length " ++ toString length ++ ", expected " ++ expected
  | .custom message => message

/-- Why a document cannot be read. -/
inductive Failure where
  | flaw (f : Flaw)
  | data (e : DataError)
  deriving Repr

/-- The words in which the reader of a text puts a flaw of it, and the place at which it
stopped. -/
structure Wording where
  flaw : String → Flaw → String
  place : String → String

/-- The plainest words: the kind of a flaw, and no place. -/
def Wording.plain : Wording where
  flaw _ flaw :=
    match flaw with
    | .malformed => "malformed text"
    | .unfinished => "unfinished text"
  place _ := ""

/-- The reason in words, for the text that was read. -/
def Failure.message (words : Wording) (text : String) : Failure → String
  | .flaw f => words.flaw text f
  | .data e => e.message ++ words.place text

/-- What a document is read as. -/
abbrev Reader (α : Type) := Doc → Except Failure α

/-- The complaint about a document that is of another type. -/
def mismatch (expected : String) : Doc → Failure
  | .null => .data (.invalidType .null expected)
  | .bool b => .data (.invalidType (.bool b) expected)
  | .number (some n) => .data (.invalidType (.number n) expected)
  | .number none => .flaw .malformed
  | .string (some s) => .data (.invalidType (.string s) expected)
  | .string none => .flaw .malformed
  | .array .. => .data (.invalidType .sequence expected)
  | .object .. => .data (.invalidType .map expected)
  | .broken b => .flaw b.used

/-- Check that an array or object ends with its bracket. -/
def readEnding : Ending → Except Failure Unit
  | .closed => .ok ()
  | .cut flaw => .error (.flaw flaw)

/-- Pass over a document. -/
def skip : Doc → Except Failure Unit
  | .broken b => .error (.flaw b.skipped)
  | .array _ ending => readEnding ending
  | .object _ ending => readEnding ending
  | _ => .ok ()

/-! ## Single values -/

/-- Read true or false. -/
def readBool : Reader Bool
  | .bool b => .ok b
  | d => .error (mismatch "a boolean" d)

/-- Read a natural number below `bound`. -/
def readNat (bound : Nat) (expected : String) : Reader Nat
  | .number (some (.integer n)) =>
      if 0 ≤ n ∧ n < bound then .ok n.toNat
      else .error (.data (.invalidValue (.number (.integer n)) expected))
  | d => .error (mismatch expected d)

/-- Read a number of 16 bits. -/
def readUInt16 : Reader UInt16 := fun d => UInt16.ofNat <$> readNat UInt16.size "u16" d

/-- Read a number of 32 bits. -/
def readUInt32 : Reader UInt32 := fun d => UInt32.ofNat <$> readNat UInt32.size "u32" d

/-- Read a number of 64 bits. -/
def readUInt64 : Reader UInt64 := fun d => UInt64.ofNat <$> readNat UInt64.size "u64" d

/-- Read a text. -/
def readString : Reader String
  | .string (some s) => .ok s
  | d => .error (mismatch "a string" d)

/-- Read what may be null. -/
def readOptional (read : Reader α) : Reader (Option α)
  | .null => .ok none
  | d => some <$> read d

/-- Read the items of an array. -/
def readItems (read : Reader α) : List Doc → Except Failure (List α)
  | [] => .ok []
  | d :: ds => do
      let a ← read d
      let as ← readItems read ds
      return a :: as

/-- Read an array. -/
def readList (read : Reader α) : Reader (List α)
  | .array items ending => do
      let as ← readItems read items
      readEnding ending
      return as
  | d => .error (mismatch "a sequence" d)

/-- Read a key, which has to be a string. -/
def readKey : Key → Except Failure String
  | .name (some s) => .ok s
  | .name none => .error (.flaw .malformed)
  | .stray none => .error (.flaw .unfinished)
  | .stray (some (.broken b)) => .error (.flaw b.usedName)
  | .stray (some _) => .error (.flaw .malformed)

/-! ## Alternatives -/

/-- The alternative of a name. -/
def variantNamed (known : List (String × α)) (name : String) : Except Failure α :=
  match known.find? (·.1 = name) with
  | some (_, a) => .ok a
  | none => .error (.data (.unknownVariant name (known.map (·.1))))

/-- Read the value that stands behind the name of an alternative. -/
def readUnit : Reader Unit
  | .null => .ok ()
  | d => .error (mismatch "unit" d)

/-- Read one of several alternatives in a text. -/
def readVariant (known : List (String × α)) : Reader α
  | .string (some s) => variantNamed known s
  | .object [] ending => do
      readEnding ending
      throw (.flaw .malformed)
  | .object ((key, value) :: more) ending => do
      let name ← readKey key
      let a ← variantNamed known name
      readUnit value
      if !more.isEmpty then throw (.flaw .malformed)
      readEnding ending
      return a
  | .broken b => .error (.flaw b.usedName)
  | _ => .error (.flaw .malformed)

/-- Read one of several alternatives from a value that has been read before. -/
def readVariantValue (known : List (String × α)) : Value → Except Failure α
  | .string s => variantNamed known s
  | .object [(name, value)] => do
      let a ← variantNamed known name
      readUnit value.toDoc
      return a
  | .object _ => .error (.data (.invalidValue .map "map with a single key"))
  | v => .error (mismatch "string or map" v.toDoc)

/-! ## Records -/

/-- A field of a record. -/
structure Field where
  name : String
  /-- Whether a value fits. -/
  check : Doc → Except Failure Unit
  /-- Whether an array that stands for the record may end before the field. -/
  optional : Bool

/-- A field whose value is read by `read`. -/
def Field.of (name : String) (read : Reader α) (optional : Bool) : Field :=
  ⟨name, fun d => (read d).map fun _ => (), optional⟩

/-- The fields of a record, under a title. -/
structure Schema where
  title : String
  fields : List Field

/-- The values given for fields. -/
abbrev Given := List (String × Doc)

namespace Schema

/-- The field of a name. -/
def field? (schema : Schema) (name : String) : Option Field :=
  schema.fields.find? (·.name = name)

/-- Read the members of an object on to the fields given before. -/
def readMembers (schema : Schema) (given : Given) : List (Key × Doc) → Except Failure Given
  | [] => .ok given
  | (key, d) :: rest => do
      let name ← readKey key
      match schema.field? name with
      | none =>
          skip d
          readMembers schema given rest
      | some field =>
          if (given.lookup name).isSome then throw (.data (.duplicateField name))
          field.check d
          readMembers schema ((name, d) :: given) rest

/-- What an array that stands for a record should be. -/
def arrayText (schema : Schema) : String :=
  "struct " ++ schema.title ++ " with " ++ toString schema.fields.length ++ " elements"

/-- Check that an array may end before some fields, the first of them at `index`. -/
def readMissing (schema : Schema) (index : Nat) : List Field → Except Failure Unit
  | [] => .ok ()
  | field :: rest =>
      if field.optional then readMissing schema (index + 1) rest
      else .error (.data (.invalidLength index schema.arrayText))

/-- Read the items of an array as fields, the first of them at `index`. -/
def readPositions (schema : Schema) (index : Nat) (ending : Ending) :
    List Field → List Doc → Except Failure Given
  | [], [] => do
      readEnding ending
      return []
  | [], _ :: _ => .error (.flaw .malformed)
  | fields, [] => do
      readEnding ending
      schema.readMissing index fields
      return []
  | field :: fields, d :: ds => do
      field.check d
      let given ← readPositions schema (index + 1) ending fields ds
      return (field.name, d) :: given

/-- Read the fields of a record. -/
def read (schema : Schema) : Reader Given
  | .object members ending => do
      let given ← schema.readMembers [] members
      readEnding ending
      return given
  | .array items ending => schema.readPositions 0 ending schema.fields items
  | d => .error (mismatch ("struct " ++ schema.title) d)

end Schema

namespace Given

/-- The value of a field that has to be given. -/
def get (given : Given) (name : String) (read : Reader α) : Except Failure α :=
  match given.lookup name with
  | some d => read d
  | none => .error (.data (.missingField name))

/-- The value of a field that has a default. -/
def getD (given : Given) (name : String) (read : Reader α) (default : α) : Except Failure α :=
  match given.lookup name with
  | some d => read d
  | none => .ok default

end Given

/-! ## Whole texts -/

/-- Read a text; nothing may follow the value. -/
def readText (read : Reader α) (s : String) : Except Failure α := do
  let d := readDocument s
  let a ← read d.root
  if d.trailing then throw (.flaw .malformed)
  return a

end AccessPolicy.Json
