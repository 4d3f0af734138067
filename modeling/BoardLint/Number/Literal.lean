import BoardLint.Number.Decimal
import BoardLint.Text.Basic

set_option autoImplicit false

/-! # Decimal literals

The texts that denote a double on their own: an optional sign, then `inf`, `infinity` or `nan` in
any case, or decimal digits with an optional point and an optional exponent. Also the plain text of
a double, which has no exponent. -/

namespace BoardLint.Binary64

/-- An exponent after its mark: an optional sign and at least one digit. -/
def exponent? : List Char → Option Int
  | '+' :: digits => (Text.nat? digits).map Int.ofNat
  | '-' :: digits => (Text.nat? digits).map fun n => -(n : Int)
  | digits => (Text.nat? digits).map Int.ofNat

/-- Digits with an optional point and an optional exponent; at least one digit is not part of the
    exponent. -/
def unsigned? (negative : Bool) (text : List Char) : Option Binary64 :=
  let (whole, rest) := text.span Char.isDigit
  let (fraction, rest) := match rest with
    | '.' :: more => more.span Char.isDigit
    | _ => ([], rest)
  let value (e : Int) :=
    some (ofDecimal negative (Text.digitsValue (whole ++ fraction)) (e - fraction.length))
  if whole.isEmpty && fraction.isEmpty then none
  else match rest with
    | [] => value 0
    | c :: rest => if c == 'e' || c == 'E' then (exponent? rest).bind value else none

/-- The double that a text denotes. -/
def ofText? (text : List Char) : Option Binary64 :=
  let (negative, text) := match text with
    | '+' :: rest => (false, rest)
    | '-' :: rest => (true, rest)
    | _ => (false, text)
  let word := String.ofList (text.map Char.toLower)
  if word == "inf" || word == "infinity" then some (.infinite negative)
  else if word == "nan" then some .nan
  else unsigned? negative text

/-- The plain text of a double: the fewest digits that read back, never an exponent. -/
def plain : Binary64 → List Char
  | .finite negative mantissa exponent =>
    let sign := if negative then ['-'] else []
    if mantissa == 0 then sign ++ ['0']
    else sign ++ (shortest .up mantissa exponent).positional
  | .infinite negative => if negative then "-Inf".toList else "Inf".toList
  | .nan => "NaN".toList

end BoardLint.Binary64
