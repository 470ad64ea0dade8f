import AccessPolicy.Proofs.Encoding
import Mathlib.Data.UInt

/-!
# AccessPolicy.Proofs.ByteOrder

Texts are ordered as their bytes are.

Texts are compared character by character, and characters by their numbers.  The bytes of
characters compare as their numbers do, whatever follows them: a form with more bytes
begins with a greater byte.

* `Production.lt_append` — one character;
* `encodeUtf8_lt_iff` — whole texts.
-/

namespace AccessPolicy.Text

/-- Of two numbers, the bytes of the smaller one come first, whatever follows them. -/
theorem Production.lt_append {bs bs' : List UInt8} {v v' : Nat} (h : Production bs v)
    (h' : Production bs' v') (hlt : v < v') (rest rest' : List UInt8) :
    bs ++ rest < bs' ++ rest' := by
  cases h <;> cases h' <;>
    simp only [List.cons_append, List.nil_append, List.cons_lt_cons_iff, UInt8.lt_iff_toNat_lt,
      ← UInt8.toNat_inj, Continues] at * <;>
    omega

/-- No form is empty. -/
theorem Production.nil_lt_append {bs : List UInt8} {v : Nat} (h : Production bs v)
    (rest : List UInt8) : [] < bs ++ rest := by
  cases h <;> exact List.nil_lt_cons _ _

/-- Characters in order have their bytes in order. -/
theorem utf8EncodeChar_flatMap_lt {cs ds : List Char} (h : cs < ds) :
    cs.flatMap String.utf8EncodeChar < ds.flatMap String.utf8EncodeChar := by
  induction cs generalizing ds with
  | nil =>
      cases ds with
      | nil => exact absurd h (List.not_lt_nil _)
      | cons d ds => exact (production_utf8EncodeChar d).nil_lt_append _
  | cons c cs ih =>
      cases ds with
      | nil => exact absurd h (List.not_lt_nil _)
      | cons d ds =>
          rw [List.flatMap_cons, List.flatMap_cons]
          rcases List.cons_lt_cons_iff.1 h with hlt | ⟨rfl, hlt⟩
          · exact (production_utf8EncodeChar c).lt_append (production_utf8EncodeChar d) hlt _ _
          · exact List.append_left_lt (ih hlt)

/-- Texts are in order iff their bytes are. -/
theorem encodeUtf8_lt_iff {s t : String} : encodeUtf8 s < encodeUtf8 t ↔ s < t := by
  have hmono {s t : String} (h : s < t) : encodeUtf8 s < encodeUtf8 t :=
    utf8EncodeChar_flatMap_lt (String.lt_iff.1 h)
  refine ⟨fun h => ?_, hmono⟩
  by_contra hnot
  by_cases hgt : t < s
  · exact List.lt_asymm h (hmono hgt)
  · obtain rfl := String.le_antisymm (String.not_lt.1 hgt) (String.not_lt.1 hnot)
    exact List.lt_irrefl _ h

end AccessPolicy.Text
