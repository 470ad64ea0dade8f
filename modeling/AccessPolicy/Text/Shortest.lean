/-!
# AccessPolicy.Text.Shortest

The shortest decimal text of a binary floating-point number.

Among the decimals that round to the number, those with the fewest digits are
taken, and of these the nearest.  A decimal rounds to the number when it lies
in the interval between the midpoints to the two neighbouring numbers; the ends
belong to the interval when the significand is even.  All of it is decided in
exact natural-number arithmetic.

The text is positional while the first digit stands for a power of ten between
10⁻⁵ and 10¹⁵, and then has at least one digit after the point; otherwise it is
in scientific form with a signed exponent.
-/

namespace AccessPolicy.Text

/-! ## Digits -/

/-- A nonzero finite number as `significand * 2 ^ (power - 1076)`, with the
width of its rounding interval below it: a quarter of the last place at a power
of two, half of it elsewhere. -/
structure Dyadic where
  significand : Nat
  power : Nat
  narrowBelow : Bool
  deriving Repr

/-- The binary parts of a floating-point number, without its sign. -/
def Dyadic.ofBits (bits : UInt64) : Dyadic :=
  let field := bits.toNat / 0x10000000000000 % 0x800
  let fraction := bits.toNat % 0x10000000000000
  if field = 0 then ⟨fraction, 2, false⟩
  else ⟨fraction + 0x10000000000000, field + 1, fraction = 0 && field > 1⟩

/-- A decimal `digits * 10 ^ scale`. -/
structure Scaled where
  digits : Nat
  scale : Int
  deriving DecidableEq, Repr

/-- Numerator and denominator of `n * 2 ^ (power - 1078)`. -/
def Dyadic.ratio (d : Dyadic) (n : Nat) : Nat × Nat := (n <<< d.power, 1 <<< 1078)

/-- The power of ten of the leading digit of a positive fraction. -/
def leadingPower (num den : Nat) : Int :=
  ((Nat.toDigits 10 (num * Nat.pow 10 400 / den)).length : Int) - 401

/-- The decimal of `count` digits that rounds to the number, if there is one;
of two the nearer. -/
def Dyadic.decimal? (d : Dyadic) (count : Nat) : Option Scaled :=
  let (num, den) := d.ratio (4 * d.significand)
  let low := (d.ratio (4 * d.significand - if d.narrowBelow then 1 else 2)).1
  let high := (d.ratio (4 * d.significand + 2)).1
  let scale := leadingPower num den - count + 1
  -- one unit of the decimal grid is `unit / den`
  let up := Nat.pow 10 (-scale).toNat
  let unit := den * Nat.pow 10 scale.toNat
  let (num, low, high) := (num * up, low * up, high * up)
  let below := num / unit
  let inside := fun n =>
    if d.significand % 2 = 0 then low ≤ n * unit && n * unit ≤ high
    else low < n * unit && n * unit < high
  let nearBelow := 2 * (num - below * unit) < unit ∨
    (2 * (num - below * unit) = unit ∧ below % 2 = 0)
  match inside below, inside (below + 1) with
  | true, true => some ⟨if nearBelow then below else below + 1, scale⟩
  | true, false => some ⟨below, scale⟩
  | false, true => some ⟨below + 1, scale⟩
  | false, false => none

/-- The decimal of fewest digits that rounds to the number.  Seventeen digits
always suffice. -/
def Dyadic.shortest (d : Dyadic) : Scaled :=
  ((List.range' 1 17).findSome? d.decimal?).getD ⟨0, 0⟩

/-! ## Text -/

/-- Drop zeros from the right end of a row of digits. -/
def dropTrailingZeros (ds : List Char) : List Char :=
  (ds.reverse.dropWhile (· = '0')).reverse

/-- The text of a decimal whose leading digit stands for `10 ^ power`. -/
def layOut (ds : List Char) (power : Int) : List Char :=
  if -5 ≤ power ∧ power < 0 then
    ['0', '.'] ++ List.replicate ((-power).toNat - 1) '0' ++ ds
  else if 0 ≤ power ∧ power ≤ 15 then
    let whole := power.toNat + 1
    let left := ds.take whole ++ List.replicate (whole - ds.length) '0'
    let right := ds.drop whole
    left ++ ['.'] ++ if right.isEmpty then ['0'] else right
  else
    let mantissa := match ds with
      | [] => []
      | [d] => [d]
      | d :: rest => d :: '.' :: rest
    mantissa ++ ['e', if power < 0 then '-' else '+'] ++ Nat.toDigits 10 power.natAbs

/-- The shortest text of a finite floating-point number. -/
def floatText (x : Float) : String :=
  let bits := x.toBits
  let sign := if bits.toNat / 0x8000000000000000 = 1 then ['-'] else []
  let d := Dyadic.ofBits bits
  if d.significand = 0 then String.ofList (sign ++ ['0', '.', '0'])
  else
    let s := d.shortest
    let all := Nat.toDigits 10 s.digits
    String.ofList (sign ++ layOut (dropTrailingZeros all) (s.scale + all.length - 1))

end AccessPolicy.Text
