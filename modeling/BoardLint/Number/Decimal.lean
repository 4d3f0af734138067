import BoardLint.Number.Binary64

set_option autoImplicit false

/-! # Decimal digits of double precision numbers

Reading rounds the exact decimal value once. Writing takes the fewest significant digits that read
back as the same number and, among those, the digits nearest to it. -/

namespace BoardLint

/-- A positive decimal number `0.d₁d₂… · 10 ^ point`, the first and the last digit not zero. -/
structure Decimal where
  digits : List Char
  point : Int
deriving DecidableEq, Repr

namespace Binary64

/-! ## Reading -/

/-- The number nearest to `± significand · 10 ^ exponent`. Exponents that lie far outside the range
    of the numbers are decided without building the power. -/
def ofDecimal (negative : Bool) (significand : Nat) (exponent : Int) : Binary64 :=
  let size : Int := Nat.log2 significand
  if significand == 0 then zero negative
  else if exponent > 400 then .infinite negative
  else if size + 3 * exponent < -1200 then zero negative
  else if exponent < 0 then ofRatio negative significand (Nat.pow 10 exponent.natAbs)
  else ofRatio negative (significand * Nat.pow 10 exponent.toNat) 1

/-! ## Writing -/

/-- Which of two equally near decimal neighbours is written. -/
inductive Tie where
  | even
  | up
deriving DecidableEq, Repr

/-- The number `x · 10 ^ q` compared with `y · 2 ^ r`, both multiplied by the powers that make them
    whole. -/
def compareScaled (x : Nat) (q : Int) (y : Nat) (r : Int) : Ordering :=
  let tens (e : Int) := Nat.pow 10 e.toNat
  let twos (e : Int) := Nat.pow 2 e.toNat
  compare (x * tens q * twos (-r)) (y * twos r * tens (-q))

/-- The least `k` with `value < 10 ^ k`, for the positive value `mantissa · 2 ^ exponent`. -/
def magnitude (mantissa : Nat) (exponent : Int) : Int :=
  let guess : Int := ((exponent + Nat.log2 mantissa) * 30103) / 100000 - 1
  let raise (k : Int) : Int :=
    if compareScaled 1 k mantissa exponent == .gt then k else k + 1
  raise (raise (raise guess))

/-- Whether `digits · 10 ^ scale` reads back as `mantissa · 2 ^ exponent`: it lies within half a
    unit (a quarter below a power of two), the ends included when the mantissa is even. -/
def readsBack (mantissa : Nat) (exponent : Int) (digits : Nat) (scale : Int) : Bool :=
  let low :=
    if mantissa == Nat.pow 2 52 && exponent > -1074 then 4 * mantissa - 1 else 4 * mantissa - 2
  let high := 4 * mantissa + 2
  let above := compareScaled digits scale low (exponent - 2)
  let below := compareScaled digits scale high (exponent - 2)
  let even := mantissa % 2 == 0
  (above == .gt || (even && above == .eq)) && (below == .lt || (even && below == .eq))

/-- The digits written for `digits · 10 ^ scale`, without zeros at the end. -/
def decimalOf (digits : Nat) (scale : Int) : Decimal :=
  let text := Nat.toDigits 10 digits
  ⟨(text.reverse.dropWhile (· == '0')).reverse, scale + text.length⟩

/-- The lower of the value's two neighbours on the grid of multiples of `10 ^ scale`. -/
def floorScaled (mantissa : Nat) (exponent scale : Int) : Nat :=
  (mantissa * Nat.pow 2 exponent.toNat * Nat.pow 10 (-scale).toNat) /
    (Nat.pow 2 (-exponent).toNat * Nat.pow 10 scale.toNat)

/-- Whether the upper neighbour is written when both read back: when it is the nearer one, and as
    the tie says when neither is. -/
def takesUpper (tie : Tie) (mantissa : Nat) (exponent scale : Int) (low : Nat) : Bool :=
  match compareScaled (2 * low + 1) scale (2 * mantissa) exponent with
  | .lt => true
  | .gt => false
  | .eq => tie == .up || low % 2 == 1

/-- The nearer of the two neighbours on a grid that read back, if one does. -/
def onGrid? (tie : Tie) (mantissa : Nat) (exponent scale : Int) : Option Decimal :=
  let low := floorScaled mantissa exponent scale
  match readsBack mantissa exponent low scale, readsBack mantissa exponent (low + 1) scale with
  | false, false => none
  | true, false => some (decimalOf low scale)
  | false, true => some (decimalOf (low + 1) scale)
  | true, true =>
    some (decimalOf (if takesUpper tie mantissa exponent scale low then low + 1 else low) scale)

/-- The first grid with `count`, `count + 1`, … significant digits that has a number reading
    back; seventeen digits always suffice. -/
def search (tie : Tie) (mantissa : Nat) (exponent top : Int) : Nat → Nat → Decimal
  | 0, count => decimalOf (floorScaled mantissa exponent (top - count)) (top - count)
  | more + 1, count =>
    (onGrid? tie mantissa exponent (top - count)).getD
      (search tie mantissa exponent top more (count + 1))

/-- The fewest digits that read back as the positive number `mantissa · 2 ^ exponent`. -/
def shortest (tie : Tie) (mantissa : Nat) (exponent : Int) : Decimal :=
  search tie mantissa exponent (magnitude mantissa exponent) 17 1

end Binary64

/-! ## Layouts -/

namespace Decimal

/-- Digits with the point in its place, without an exponent and without a fraction of zero. -/
def positional (d : Decimal) : List Char :=
  if d.point ≤ 0 then '0' :: '.' :: List.replicate d.point.natAbs '0' ++ d.digits
  else if d.digits.length ≤ d.point.toNat then
    d.digits ++ List.replicate (d.point.toNat - d.digits.length) '0'
  else d.digits.take d.point.toNat ++ '.' :: d.digits.drop d.point.toNat

/-- One digit, the others after the point, and the exponent with its sign. -/
def scientific (d : Decimal) : List Char :=
  let fraction := match d.digits.drop 1 with
    | [] => []
    | rest => '.' :: rest
  let exponent := d.point - 1
  d.digits.take 1 ++ fraction ++ 'e' :: (if exponent < 0 then '-' else '+') ::
    Nat.toDigits 10 exponent.natAbs

end Decimal

end BoardLint
