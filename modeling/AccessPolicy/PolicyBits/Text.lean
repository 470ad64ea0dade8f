import AccessPolicy.PolicyBits
import AccessPolicy.Text.Blank
import AccessPolicy.Text.Hexadecimal

/-!
# AccessPolicy.PolicyBits.Text

Policy bits as text: names joined by ` | `, and a hexadecimal numeral for the
bits without a name.

Writing walks the named flags in their order.  A flag is named when the value
contains it and it still has a bit that no earlier name accounts for.

Reading accepts any flag by name and any value in hexadecimal:

1. a blank text is the empty set;
2. else the text is cut at each `|` and every part trimmed;
3. a part that starts with `0x` is a numeral of at most 32 bits, which may have
   one plus sign; any other part has to be the name of a flag;
4. the first part that cannot be read is the one complained of.
-/

namespace AccessPolicy

namespace PolicyBits

/-! ## Names -/

/-- The named flags, in the order in which they are written. -/
def flags : List (String × PolicyBits) :=
  [("ALLOW_READ", allowRead),
   ("ALLOW_WRITE", allowWrite),
   ("ALLOW_ENUMERATE", allowEnumerate),
   ("ALLOW_CREATE_DIRECTORY", allowCreateDirectory),
   ("ALLOW_READ_IF_NONEXISTENT", allowReadIfNonexistent),
   ("DENY", deny),
   ("REPORT_ACCESS", reportAccess),
   ("REPORT_DIRECTORY_ENUMERATION", reportDirectoryEnumeration),
   ("ALLOW_ALL", allowAll),
   ("MASK_ALL", maskAll),
   ("MASK_NONE", maskNone)]

/-- The names for `remaining`, a part of `value`, among the flags still to come,
and the bits that have none. -/
def namesFrom (value remaining : PolicyBits) :
    List (String × PolicyBits) → List String × PolicyBits
  | [] => ([], remaining)
  | (name, flag) :: rest =>
      if value.contains flag && remaining.meets flag then
        let (names, left) := namesFrom value (remaining \ flag) rest
        (name :: names, left)
      else namesFrom value remaining rest

/-- The names that make up a value. -/
def names (b : PolicyBits) : List String := (namesFrom b b flags).1

/-- The bits of a value that no name accounts for. -/
def unnamed (b : PolicyBits) : PolicyBits := (namesFrom b b flags).2

/-! ## Writing -/

/-- A value as a hexadecimal numeral. -/
def hexText (b : PolicyBits) : String := "0x" ++ String.ofList (Text.hexNumeral b.word.toNat)

/-- A value as a hexadecimal numeral of eight digits. -/
def paddedHexText (b : PolicyBits) : String :=
  "0x" ++ String.ofList (Text.hexPadded 8 b.word.toNat)

/-- The parts of the text of a value. -/
def parts (b : PolicyBits) : List String :=
  b.names ++ if b.unnamed = ∅ then [] else [b.unnamed.hexText]

/-- The text of a value; the empty set has the empty text. -/
def text (b : PolicyBits) : String := String.intercalate " | " b.parts

/-- The text of a value inside a description, where the empty set shows as zero. -/
def describe (b : PolicyBits) : String :=
  "PolicyBits(" ++ (if b = ∅ then "0x0" else b.text) ++ ")"

/-! ## Reading -/

/-- Why a text is no set of flags. -/
inductive FlagError where
  /-- A part is blank. -/
  | emptyFlag
  /-- A part starts like a numeral and is none. -/
  | invalidHex
  /-- A part is not the name of a flag. -/
  | unknownName
  deriving DecidableEq, Repr

/-- The complaint in words. -/
def FlagError.message : FlagError → String
  | .emptyFlag => "encountered empty flag"
  | .invalidHex => "invalid hex flag"
  | .unknownName => "unrecognized named flag"

/-- Read the digits of a numeral of at most 32 bits; one plus sign may stand
before them. -/
def readWord (cs : List Char) : Option PolicyBits :=
  let digits := match cs with
    | '+' :: rest => rest
    | _ => cs
  match Text.readHex digits with
  | some n => if n < UInt32.size then some ⟨BitVec.ofNat 32 n⟩ else none
  | none => none

/-- The flag of a name. -/
def flagNamed? (name : List Char) : Option PolicyBits :=
  (flags.find? fun f => f.1.toList = name).map (·.2)

/-- Read one trimmed part. -/
def readPart : List Char → Except FlagError PolicyBits
  | [] => .error .emptyFlag
  | '0' :: 'x' :: digits =>
      match readWord digits with
      | some b => .ok b
      | none => .error .invalidHex
  | name =>
      match flagNamed? name with
      | some b => .ok b
      | none => .error .unknownName

/-- Read parts on to the union of those before them. -/
def readParts (sum : PolicyBits) : List (List Char) → Except FlagError PolicyBits
  | [] => .ok sum
  | part :: rest =>
      match readPart (Text.trim part) with
      | .ok b => readParts (sum ∪ b) rest
      | .error e => .error e

/-- Read a text as a set of flags. -/
def parse (s : String) : Except FlagError PolicyBits :=
  if Text.trim s.toList = [] then .ok ∅
  else readParts ∅ (s.toList.splitOn '|')

end PolicyBits

end AccessPolicy
