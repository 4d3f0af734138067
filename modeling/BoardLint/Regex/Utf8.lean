import BoardLint.Unicode.CodeSet

set_option autoImplicit false

/-! # Characters as bytes

A range of characters as sequences of ranges of bytes, so that a text is in one of the sequences
exactly when it is the UTF-8 encoding of a character in the range. A range is cut where the number
of bytes changes and where a byte does not run through all of its values while one before it
changes. -/

namespace BoardLint.Regex

open Unicode (CodeSet)

/-- A range of bytes, both ends included. -/
structure ByteRange where
  low : Nat
  high : Nat
deriving DecidableEq, Repr, Hashable

/-- The bytes of a character. -/
def encode (n : Nat) : List Nat :=
  if n < 0x80 then [n]
  else if n < 0x800 then [0xC0 + n / 64, 0x80 + n % 64]
  else if n < 0x10000 then [0xE0 + n / 4096, 0x80 + n / 64 % 64, 0x80 + n % 64]
  else [0xF0 + n / 262144, 0x80 + n / 4096 % 64, 0x80 + n / 64 % 64, 0x80 + n % 64]

/-- Where a range has to be cut, as the last code point of its first part. -/
def cut? (low high : Nat) : Option Nat :=
  let byLength := [0x7F, 0x7FF, 0xFFFF].find? fun last => low ≤ last && last < high
  let byBlock := [64, 4096, 262144].findSome? fun block =>
    if low / block == high / block then none
    else if low % block != 0 then some (low - low % block + block - 1)
    else if high % block != block - 1 then some (high - high % block - 1)
    else none
  match byLength with
  | some last => some last
  | none => if high ≤ 0x7F then none else byBlock

/-- The sequences of a range of characters, in increasing order. Every cut separates what differs in
    the number of bytes or in a higher byte, so a fixed number of them is enough. -/
def sequencesOf : Nat → Nat → Nat → List (List ByteRange)
  | 0, _, _ => []
  | fuel + 1, low, high =>
    match cut? low high with
    | some last => sequencesOf fuel low last ++ sequencesOf fuel (last + 1) high
    | none => [((encode low).zip (encode high)).map fun (a, b) => ⟨a, b⟩]

/-- The sequences of a set of characters, in increasing order. -/
def sequences (s : CodeSet) : List (List ByteRange) :=
  s.ranges.flatMap fun (low, high) => sequencesOf 16 low high

end BoardLint.Regex
