import AccessPolicy.Text.Runs

/-!
# AccessPolicy.Text.Blank

White space as the Unicode property `White_Space` has it, and trimming by it.
-/

namespace AccessPolicy.Text

/-- The code points of white space. -/
def blankRuns : List Run := [
  ⟨0x9, 0xD, 1⟩, ⟨0x20, 0x20, 1⟩, ⟨0x85, 0x85, 1⟩, ⟨0xA0, 0xA0, 1⟩, ⟨0x1680, 0x1680, 1⟩,
  ⟨0x2000, 0x200A, 1⟩, ⟨0x2028, 0x2029, 1⟩, ⟨0x202F, 0x202F, 1⟩, ⟨0x205F, 0x205F, 1⟩,
  ⟨0x3000, 0x3000, 1⟩]

/-- Whether a character is white space. -/
def isBlank (c : Char) : Bool := inRuns c.toNat blankRuns

/-- Drop white space from both ends. -/
def trim (cs : List Char) : List Char :=
  ((cs.dropWhile isBlank).reverse.dropWhile isBlank).reverse

end AccessPolicy.Text
