import BoardLint.Number.Decimal
import BoardLint.Text.Basic

set_option autoImplicit false

/-! # JSON numbers

A number of a document is a whole number of 64 bits, signed or unsigned, or a double. Reading a
double takes the digits as far as they fit into 64 bits and scales the result once by a power of
ten, so it can differ from the nearest double in the last place. -/

namespace BoardLint.Json

/-- A number of a document. -/
inductive Number where
  | int (value : Int)
  | real (value : Binary64)
deriving DecidableEq, Repr, Inhabited

namespace Number

/-! ## Reading -/

/-- Appends digits to a significand while it stays below `2 ^ 64`. Returns the significand, the
    number of digits taken and whether some were left. -/
def gather (significand taken : Nat) : List Char → Nat × Nat × Bool
  | [] => (significand, taken, false)
  | c :: digits =>
    let next := significand * 10 + (c.toNat - '0'.toNat)
    if next < Nat.pow 2 64 then gather next (taken + 1) digits else (significand, taken, true)

/-- A significand below `2 ^ 64` times a power of ten. Too large a value is refused. -/
def scaled? (negative : Bool) (significand : Nat) (exponent : Int) : Option Binary64 :=
  let start := Binary64.ofNat significand
  let power (n : Nat) := Binary64.ofNat (Nat.pow 10 n)
  let signed (x : Binary64) := if negative then x.neg else x
  if significand == 0 then some (Binary64.zero negative)
  else if exponent > 308 then none
  else if exponent ≥ 0 then
    let x := start.mul (power exponent.toNat)
    if x.isFinite then some (signed x) else none
  else if exponent ≥ -308 then some (signed (start.div (power exponent.natAbs)))
  else if exponent ≥ -616 then
    some (signed ((start.div (power 308)).div (power (exponent.natAbs - 308))))
  else some (Binary64.zero negative)

/-- A number with a fraction, an exponent, or more digits than 64 bits hold. An exponent that does
    not fit into 31 bits is refused when it is positive and the significand is not zero. -/
def real? (negative : Bool) (whole fraction : List Char) (exponent : Option (Bool × Nat)) :
    Option Binary64 :=
  let (significand, taken, _) := gather 0 0 whole
  let raised : Int := whole.length - taken
  let (significand, lowered, _) := gather significand 0 fraction
  let start : Int := raised - lowered
  match exponent with
  | none => scaled? negative significand start
  | some (down, size) =>
    if size ≥ Nat.pow 2 31 then
      if significand != 0 && !down then none else some (Binary64.zero negative)
    else scaled? negative significand (if down then start - size else start + size)

/-- A number without fraction and exponent: a whole number where 64 bits hold it, else a double. The
    negative zero is a double. -/
def whole? (negative : Bool) (digits : List Char) : Option Number :=
  let value := Text.digitsValue digits
  if !negative && value < Nat.pow 2 64 then some (.int value)
  else if negative && 0 < value && value ≤ Nat.pow 2 63 then some (.int (-(value : Int)))
  else (real? negative digits [] none).map .real

/-- Whether a text begins with a minus sign, and what follows it. -/
def scanSign : List Char → Bool × List Char
  | '-' :: rest => (true, rest)
  | text => (false, text)

/-- Whether an exponent begins with a minus sign, and what follows its sign. -/
def scanExponentSign : List Char → Bool × List Char
  | '+' :: rest => (false, rest)
  | text => scanSign text

/-- The digits of an exponent after its mark, with their sign. -/
def scanExponent? (text : List Char) : Option ((Bool × Nat) × List Char) :=
  let (down, text) := scanExponentSign text
  match text.span Char.isDigit with
  | ([], _) => none
  | (digits, rest) => some ((down, Text.digitsValue digits), rest)

/-- An optional fraction, and the rest of the text. -/
def scanFraction? : List Char → Option (Option (List Char) × List Char)
  | '.' :: rest =>
    match rest.span Char.isDigit with
    | ([], _) => none
    | (digits, rest) => some (some digits, rest)
  | text => some (none, text)

/-- An optional exponent, and the rest of the text. -/
def scanPower? : List Char → Option (Option (Bool × Nat) × List Char)
  | 'e' :: rest => (scanExponent? rest).map fun (e, rest) => (some e, rest)
  | 'E' :: rest => (scanExponent? rest).map fun (e, rest) => (some e, rest)
  | text => some (none, text)

/-- A number at the beginning of a text, and the rest of the text. A zero in front of another digit
    is refused. A number that is too large has no value. -/
def scan? (text : List Char) : Option (Option Number × List Char) := do
  let (negative, text) := scanSign text
  let (digits, text) := text.span Char.isDigit
  if digits.isEmpty || (digits.head? == some '0' && digits.length > 1) then none
  else
    let (fraction, text) ← scanFraction? text
    let (exponent, rest) ← scanPower? text
    let value := match fraction, exponent with
      | none, none => whole? negative digits
      | _, _ => (real? negative digits (fraction.getD []) exponent).map .real
    some (value, rest)

/-! ## Writing -/

/-- A double in a document: positional from 0.00001 up to below 10^16, where a whole number keeps
    one zero after the point, and with an exponent outside. -/
def writeReal : Binary64 → List Char
  | .finite negative mantissa exponent =>
    let sign := if negative then ['-'] else []
    if mantissa == 0 then sign ++ ['0', '.', '0']
    else
      let d := Binary64.shortest .even mantissa exponent
      if -5 < d.point && d.point ≤ 16 then
        let fraction : List Char := if d.digits.length ≤ d.point.toNat then ['.', '0'] else []
        sign ++ d.positional ++ fraction
      else sign ++ d.scientific
  | _ => ['n', 'u', 'l', 'l']

/-- The text of a whole number. -/
def writeInt (n : Int) : List Char :=
  if n < 0 then '-' :: Nat.toDigits 10 n.natAbs else Nat.toDigits 10 n.natAbs

/-- The text of a number. -/
def write : Number → List Char
  | .int n => writeInt n
  | .real x => writeReal x

end Number

end BoardLint.Json
