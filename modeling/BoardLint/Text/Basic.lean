set_option autoImplicit false

/-! # Text on lists of characters

The small vocabulary that the scanners of this library share: blanks, taking a known beginning or
end off a text, splitting into lines, and reading runs of decimal digits. Everything works on
`List Char`, so that a statement about a text is an induction over its characters. -/

namespace BoardLint.Text

/-! ## Character classes -/

/-- White space in the sense of the Unicode property `White_Space`. -/
def isBlank (c : Char) : Bool :=
  let n := c.toNat
  (9 ≤ n && n ≤ 13) || n == 0x20 || n == 0x85 || n == 0xA0 || n == 0x1680 ||
    (0x2000 ≤ n && n ≤ 0x200A) || n == 0x2028 || n == 0x2029 || n == 0x202F || n == 0x205F ||
    n == 0x3000

/-- Space, tab, line feed, form feed and carriage return. -/
def isAsciiBlank (c : Char) : Bool :=
  c == ' ' || c == '\t' || c == '\n' || c == '\x0c' || c == '\r'

/-- A letter or digit of ASCII, or the underscore. -/
def isAsciiWord (c : Char) : Bool :=
  c.isAlphanum || c == '_'

/-- The value of a hexadecimal digit of either case. -/
def hexValue? (c : Char) : Option Nat :=
  if c.isDigit then some (c.toNat - '0'.toNat)
  else if 'a' ≤ c && c ≤ 'f' then some (c.toNat - 'a'.toNat + 10)
  else if 'A' ≤ c && c ≤ 'F' then some (c.toNat - 'A'.toNat + 10)
  else none

/-- Lower case as far as it can produce an ASCII letter: the ASCII capitals, and the Kelvin sign,
    whose lower case is `k`. Comparing with an ASCII word needs no more of the case map. -/
def lowerChar (c : Char) : Char :=
  if c == '\u212a' then 'k' else c.toLower

/-- A text in lower case, for comparison with ASCII words. -/
def lowered (s : String) : String :=
  String.ofList (s.toList.map lowerChar)

/-! ## Beginnings and ends -/

/-- What follows `front` in `text`, if `text` begins with it. -/
def after? : List Char → List Char → Option (List Char)
  | [], text => some text
  | _ :: _, [] => none
  | a :: front, c :: text => if a == c then after? front text else none

/-- What precedes `back` in `text`, if `text` ends with it. -/
def before? (back text : List Char) : Option (List Char) :=
  (after? back.reverse text.reverse).map List.reverse

/-- Drops the blanks at the end. -/
def trimEnd (text : List Char) : List Char :=
  (text.reverse.dropWhile isBlank).reverse

/-- Drops the blanks at both ends. -/
def trim (text : List Char) : List Char :=
  trimEnd (text.dropWhile isBlank)

/-- Drops the blanks at both ends of a string. -/
def trimmed (s : String) : String :=
  String.ofList (trim s.toList)

/-- Whether `needle` occurs in `text`. -/
def contains (needle : List Char) : List Char → Bool
  | [] => needle.isEmpty
  | c :: text => needle.isPrefixOf (c :: text) || contains needle text

/-- Whether the string `s` ends in `ending`. -/
def endsIn (ending s : String) : Bool :=
  (before? ending.toList s.toList).isSome

/-- A list and what is left of it after each item. -/
def suffixes {α : Type} : List α → List (List α)
  | [] => [[]]
  | a :: rest => (a :: rest) :: suffixes rest

/-! ## Lines and pieces -/

/-- The text before the first `sep` and, if there is one, the text after it. -/
def cutAt (sep : Char) : List Char → List Char × Option (List Char)
  | [] => ([], none)
  | c :: text =>
    if c == sep then ([], some text)
    else
      let (front, back) := cutAt sep text
      (c :: front, back)

/-- Drops one carriage return at the end of a line. -/
def dropReturn (line : List Char) : List Char :=
  if line.getLast? == some '\r' then line.dropLast else line

/-- The lines of a text. A line ends with a line feed, before which a carriage return is dropped;
    the end of the text ends a line that has characters. -/
def lines (s : String) : List String :=
  let pieces := s.toList.splitOn '\n'
  let pieces := if pieces.getLast? == some [] then pieces.dropLast else pieces
  let closed := if s.toList.getLast? == some '\n' then pieces.length else pieces.length - 1
  (pieces.zipIdx.map fun (line, i) =>
    String.ofList (if i < closed then dropReturn line else line))

/-! ## Decimal digits -/

/-- The number that a run of decimal digits denotes. -/
def digitsValue (digits : List Char) : Nat :=
  digits.foldl (fun n c => n * 10 + (c.toNat - '0'.toNat)) 0

/-- A natural number written with at least one decimal digit and nothing else. -/
def nat? (text : List Char) : Option Nat :=
  if text.isEmpty || !text.all Char.isDigit then none else some (digitsValue text)

/-- A whole number with an optional sign. -/
def int? : List Char → Option Int
  | '+' :: text => (nat? text).map Int.ofNat
  | '-' :: text => (nat? text).map fun n => -(n : Int)
  | text => (nat? text).map Int.ofNat

/-- A signed 64-bit number. -/
def int64? (text : List Char) : Option Int :=
  (int? text).filter fun n => -(Nat.pow 2 63 : Int) ≤ n && n < (Nat.pow 2 63 : Int)

/-- An unsigned 64-bit number, with an optional plus sign. -/
def uint64? (text : List Char) : Option UInt64 :=
  let digits := match text with
    | '+' :: rest => rest
    | _ => text
  ((nat? digits).filter (· < Nat.pow 2 64)).map UInt64.ofNat

/-- A number in hexadecimal, lower case, without leading zeros. -/
def hex (n : Nat) : List Char :=
  Nat.toDigits 16 n

end BoardLint.Text
