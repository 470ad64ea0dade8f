import AccessPolicy.Json.Document

/-!
# AccessPolicy.Json.Value

Values and their texts, on one line or laid out.

Laid out, every item and member stands on a line of its own, indented by two
spaces a level; an array or object that is empty stays on one line.

* `value?_toDoc` — a value is the value of its document.
-/

namespace AccessPolicy.Json

/-- A value. -/
inductive Value where
  | null
  | bool (b : Bool)
  | number (n : Number)
  | string (s : String)
  | array (items : List Value)
  | object (members : List (String × Value))
  deriving Repr

instance : Inhabited Value := ⟨.null⟩

namespace Value

/-- A natural number as a value. -/
def ofNat (n : Nat) : Value := .number (.integer n)

/-- An optional value; nothing is null. -/
def ofOption (f : α → Value) : Option α → Value
  | none => .null
  | some a => f a

/-- The member of a name. -/
def get? (name : String) : Value → Option Value
  | .object members => (members.find? (·.1 = name)).map (·.2)
  | _ => none

/-! ## On one line -/

/-- The text of true or false. -/
def boolText (b : Bool) : List Char := (toString b).toList

mutual

/-- The text of a value on one line. -/
def compact : Value → List Char
  | .null => ['n', 'u', 'l', 'l']
  | .bool b => boolText b
  | .number n => n.text.toList
  | .string s => literal s
  | .array [] => ['[', ']']
  | .array (v :: vs) => '[' :: (compact v ++ compactItems vs)
  | .object [] => ['\x7b', '\x7d']
  | .object (m :: ms) => '\x7b' :: (compactMember m ++ compactMembers ms)

/-- The items of an array after the first. -/
def compactItems : List Value → List Char
  | [] => [']']
  | v :: vs => ',' :: (compact v ++ compactItems vs)

/-- A member of an object. -/
def compactMember : String × Value → List Char
  | (key, v) => literal key ++ ':' :: compact v

/-- The members of an object after the first. -/
def compactMembers : List (String × Value) → List Char
  | [] => ['\x7d']
  | m :: ms => ',' :: (compactMember m ++ compactMembers ms)

end

/-- The text of a value on one line. -/
def text (v : Value) : String := String.ofList v.compact

/-! ## Laid out -/

/-- The beginning of a line. -/
def newLine (level : Nat) : List Char := '\n' :: List.replicate (2 * level) ' '

mutual

/-- The text of a value laid out, on a level. -/
def layOut (level : Nat) : Value → List Char
  | .null => ['n', 'u', 'l', 'l']
  | .bool b => boolText b
  | .number n => n.text.toList
  | .string s => literal s
  | .array [] => ['[', ']']
  | .array (v :: vs) =>
      '[' :: (newLine (level + 1) ++ layOut (level + 1) v ++ layOutItems level vs)
  | .object [] => ['\x7b', '\x7d']
  | .object (m :: ms) =>
      '\x7b' :: (newLine (level + 1) ++ layOutMember (level + 1) m ++ layOutMembers level ms)

/-- The items of an array after the first, and its end. -/
def layOutItems (level : Nat) : List Value → List Char
  | [] => newLine level ++ [']']
  | v :: vs => ',' :: (newLine (level + 1) ++ layOut (level + 1) v ++ layOutItems level vs)

/-- A member of an object. -/
def layOutMember (level : Nat) : String × Value → List Char
  | (key, v) => literal key ++ [':', ' '] ++ layOut level v

/-- The members of an object after the first, and its end. -/
def layOutMembers (level : Nat) : List (String × Value) → List Char
  | [] => newLine level ++ ['\x7d']
  | m :: ms =>
      ',' :: (newLine (level + 1) ++ layOutMember (level + 1) m ++ layOutMembers level ms)

end

/-- The text of a value laid out. -/
def pretty (v : Value) : String := String.ofList (v.layOut 0)

/-! ## Order of members -/

mutual

/-- The value with the members of every object in ascending order. -/
def sorted : Value → Value
  | .array items => .array (sortedItems items)
  | .object members => .object ((sortedMembers members).mergeSort fun a b => a.1 ≤ b.1)
  | v => v

/-- The items of an array, each with its objects in order. -/
def sortedItems : List Value → List Value
  | [] => []
  | v :: vs => sorted v :: sortedItems vs

/-- The members of an object, each with its objects in order. -/
def sortedMembers : List (String × Value) → List (String × Value)
  | [] => []
  | (key, v) :: ms => (key, sorted v) :: sortedMembers ms

end

/-! ## Values and documents -/

mutual

/-- A value as a document. -/
def toDoc : Value → Doc
  | .null => .null
  | .bool b => .bool b
  | .number n => .number (some n)
  | .string s => .string (some s)
  | .array items => .array (itemDocs items) .closed
  | .object members => .object (memberDocs members) .closed

/-- The items of an array as documents. -/
def itemDocs : List Value → List Doc
  | [] => []
  | v :: vs => toDoc v :: itemDocs vs

/-- The members of an object as documents. -/
def memberDocs : List (String × Value) → List (Key × Doc)
  | [] => []
  | (key, v) :: ms => (.name (some key), toDoc v) :: memberDocs ms

end

end Value

/-! ## The value of a document -/

/-- Whether an ending is a bracket. -/
def Ending.isClosed : Ending → Bool
  | .closed => true
  | .cut _ => false

mutual

/-- The value of a document that can be read to its end. -/
def Doc.value? : Doc → Option Value
  | .null => some .null
  | .bool b => some (.bool b)
  | .number n => n.map .number
  | .string s => s.map .string
  | .array items ending =>
      if ending.isClosed then (itemValues? items).map .array else none
  | .object members ending =>
      if ending.isClosed then (memberValues? members).map .object else none
  | .broken _ => none

/-- The values of the items of an array. -/
def itemValues? : List Doc → Option (List Value)
  | [] => some []
  | d :: ds => do
      let v ← d.value?
      let vs ← itemValues? ds
      return v :: vs

/-- The values of the members of an object. -/
def memberValues? : List (Key × Doc) → Option (List (String × Value))
  | [] => some []
  | (.name (some key), d) :: ds => do
      let v ← d.value?
      let vs ← memberValues? ds
      return (key, v) :: vs
  | _ :: _ => none

end

namespace Value

mutual

/-- A value is the value of its document. -/
theorem value?_toDoc : (v : Value) → v.toDoc.value? = some v
  | .null => rfl
  | .bool _ => rfl
  | .number _ => rfl
  | .string _ => rfl
  | .array items => by simp [toDoc, Doc.value?, Ending.isClosed, itemValues?_itemDocs items]
  | .object members => by simp [toDoc, Doc.value?, Ending.isClosed, memberValues?_memberDocs members]

theorem itemValues?_itemDocs : (vs : List Value) → itemValues? (itemDocs vs) = some vs
  | [] => rfl
  | v :: vs => by simp [itemDocs, itemValues?, value?_toDoc v, itemValues?_itemDocs vs]

theorem memberValues?_memberDocs :
    (ms : List (String × Value)) → memberValues? (memberDocs ms) = some ms
  | [] => rfl
  | (key, v) :: ms => by
      simp [memberDocs, memberValues?, value?_toDoc v, memberValues?_memberDocs ms]

end

end Value

/-- The value that a text stands for, if it is a document. -/
def readValue? (s : String) : Option Value :=
  let d := readDocument s
  if d.trailing then none else d.root.value?

end AccessPolicy.Json
