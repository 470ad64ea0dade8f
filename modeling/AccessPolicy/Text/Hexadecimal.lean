/-!
# AccessPolicy.Text.Hexadecimal

Hexadecimal numerals.  Numbers and bytes are written with lowercase digits;
both cases are read.
-/

namespace AccessPolicy.Text

/-! ## Numbers -/

/-- The shortest hexadecimal numeral of a number. -/
def hexNumeral (n : Nat) : List Char := Nat.toDigits 16 n

/-- The hexadecimal numeral of a number, filled up with zeros on the left to
`width` digits. -/
def hexPadded (width n : Nat) : List Char :=
  List.replicate (width - (hexNumeral n).length) '0' ++ hexNumeral n

/-- The value of a hexadecimal digit of either case: the code points of `0` to
`9`, `A` to `F` and `a` to `f` follow one another. -/
def hexDigit? (c : Char) : Option Nat :=
  if 0x30 ≤ c.toNat ∧ c.toNat ≤ 0x39 then some (c.toNat - 0x30)
  else if 0x61 ≤ c.toNat ∧ c.toNat ≤ 0x66 then some (c.toNat - 0x61 + 10)
  else if 0x41 ≤ c.toNat ∧ c.toNat ≤ 0x46 then some (c.toNat - 0x41 + 10)
  else none

/-- Read digits on to the value of those before them. -/
def readHexFrom (value : Nat) : List Char → Option Nat
  | [] => some value
  | c :: cs => (hexDigit? c).bind fun d => readHexFrom (value * 16 + d) cs

/-- The value of a numeral of at least one digit. -/
def readHex : List Char → Option Nat
  | [] => none
  | cs => readHexFrom 0 cs

/-- Reading a numeral in two parts is reading it at once. -/
theorem readHexFrom_append (value : Nat) (xs ys : List Char) :
    readHexFrom value (xs ++ ys) = (readHexFrom value xs).bind (readHexFrom · ys) := by
  induction xs generalizing value with
  | nil => rfl
  | cons c xs ih =>
      simp only [List.cons_append, readHexFrom]
      cases hexDigit? c with
      | none => rfl
      | some d => simp only [Option.bind_some, ih]

/-! ## Bytes -/

/-- The two digits of a byte. -/
def hexByte (b : UInt8) : List Char :=
  [Nat.digitChar (b.toNat / 16), Nat.digitChar (b.toNat % 16)]

/-- A string of bytes in digits. -/
def hexBytes (bs : List UInt8) : String := String.ofList (bs.flatMap hexByte)

/-- Read a string of bytes; an odd digit or any other character spoils it. -/
def readHexBytes : List Char → Option (List UInt8)
  | [] => some []
  | [_] => none
  | a :: b :: rest => do
      let high ← hexDigit? a
      let low ← hexDigit? b
      let bs ← readHexBytes rest
      return UInt8.ofNat (high * 16 + low) :: bs

end AccessPolicy.Text
