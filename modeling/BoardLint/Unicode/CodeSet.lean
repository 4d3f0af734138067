set_option autoImplicit false

/-! # Sets of code points

A set of code points is the increasing list of the places where membership changes: the first bound
begins a range, the second is the first code point after it, and so on. A bound appears once, so a
set has one such list. Tables of sets are written as texts: each bound by its distance from the one
before it, in digits of five bits. -/

namespace BoardLint.Unicode

/-- A set of code points, by the increasing places where membership changes. -/
structure CodeSet where
  bounds : List Nat
deriving DecidableEq, Repr, Inhabited

namespace CodeSet

/-- No code point. -/
def empty : CodeSet := ⟨[]⟩

/-- The code points from one to another, both included. -/
def range (low high : Nat) : CodeSet := if low ≤ high then ⟨[low, high + 1]⟩ else empty

/-- A single code point. -/
def single (n : Nat) : CodeSet := range n n

/-- All characters: every code point that is no half of a UTF-16 pair. -/
def all : CodeSet := ⟨[0, 0xD800, 0xE000, 0x110000]⟩

/-- The ranges of a set, both ends included, in increasing order. -/
def rangesOf : List Nat → List (Nat × Nat)
  | low :: after :: rest => (low, after - 1) :: rangesOf rest
  | _ => []

/-- The ranges of a set, both ends included, in increasing order. -/
def ranges (s : CodeSet) : List (Nat × Nat) := rangesOf s.bounds

/-- Whether a set has no code point. -/
def isEmpty (s : CodeSet) : Bool := s.bounds.isEmpty

/-- Whether a code point lies between the bounds that begin and end a range. -/
def isBetween (n : Nat) : List Nat → Bool
  | low :: after :: rest => if n < low then false else n < after || isBetween n rest
  | _ => false

/-- Whether a code point belongs to a set. -/
def contains (s : CodeSet) (n : Nat) : Bool := isBetween n s.bounds

/-! ## Combination -/

/-- Goes through the bounds of two sets in order. The flags tell whether the code points before the
    next bounds belong to the sets; a bound of the result is where `keep` changes. -/
def sweep (keep : Bool → Bool → Bool) : Nat → Bool → Bool → List Nat → List Nat → List Nat
  | 0, _, _, _, _ => []
  | fuel + 1, inA, inB, a, b =>
    let cross (x : Nat) (inA' inB' : Bool) (a b : List Nat) : List Nat :=
      let rest := sweep keep fuel inA' inB' a b
      if keep inA inB == keep inA' inB' then rest else x :: rest
    match a, b with
    | [], [] => []
    | x :: a, [] => cross x (!inA) inB a []
    | [], y :: b => cross y inA (!inB) [] b
    | x :: a, y :: b =>
      if x < y then cross x (!inA) inB a (y :: b)
      else if y < x then cross y inA (!inB) (x :: a) b
      else cross x (!inA) (!inB) a b

/-- The code points for which a test of their membership in two sets holds. It does not hold for
    those that are in neither. -/
def combine (keep : Bool → Bool → Bool) (s t : CodeSet) : CodeSet :=
  ⟨sweep keep (s.bounds.length + t.bounds.length) false false s.bounds t.bounds⟩

/-- The code points of either set. -/
def union (s t : CodeSet) : CodeSet := combine (· || ·) s t

/-- The code points of both sets. -/
def inter (s t : CodeSet) : CodeSet := combine (· && ·) s t

/-- The code points of the first set that are not in the second. -/
def diff (s t : CodeSet) : CodeSet := combine (fun a b => a && !b) s t

/-- The code points of exactly one of the sets. -/
def symmDiff (s t : CodeSet) : CodeSet := combine (· != ·) s t

/-- The characters that are not in a set. -/
def complement (s : CodeSet) : CodeSet := all.diff s

/-- The union of several sets. -/
def unions (sets : List CodeSet) : CodeSet := sets.foldl union empty

/-- The set of several ranges. -/
def ofRanges (ranges : List (Nat × Nat)) : CodeSet :=
  unions (ranges.map fun (low, high) => range low high)

/-- Puts a code point in front of bounds, of which none is smaller. -/
def insertPoint (n : Nat) : List Nat → List Nat
  | low :: rest =>
    if n == low then low :: rest
    else if n + 1 == low then n :: rest
    else n :: (n + 1) :: low :: rest
  | [] => [n, n + 1]

/-- The set of several code points. -/
def ofPoints (points : List Nat) : CodeSet := ⟨points.mergeSort.foldr insertPoint []⟩

/-! ## Texts of tables -/

/-- The value of a digit: `0` to `9`, `A` to `Z`, `a` to `z`, `+` and `-` in this order. -/
def digit (c : Char) : Nat :=
  if c.isDigit then c.toNat - 48
  else if c.isUpper then c.toNat - 55
  else if c.isLower then c.toNat - 61
  else if c == '+' then 62
  else 63

/-- The numbers that a text gives, each the sum of the one before it and a distance. Five bits of a
    distance are in a digit, the lowest first, and a digit from 32 on has more to follow. -/
def decodeFrom (before distance place : Nat) : List Char → List Nat
  | [] => []
  | c :: rest =>
    let d := digit c
    if d < 32 then
      let now := before + distance + d * place
      now :: decodeFrom now 0 1 rest
    else decodeFrom before (distance + (d - 32) * place) (place * 32) rest

/-- The set that a text gives. -/
def decode (text : String) : CodeSet := ⟨decodeFrom 0 0 1 text.toList⟩

end CodeSet

/-- A set of a table, with the names that it goes by and the parts of its text. -/
structure Named where
  names : List String
  code : List String
deriving Repr, Inhabited

namespace Named

/-- The set. -/
def set (n : Named) : CodeSet := CodeSet.decode (String.join n.code)

/-- The set of a name. -/
def find? (table : List Named) (name : String) : Option CodeSet :=
  (table.find? fun n => n.names.contains name).map set

end Named

end BoardLint.Unicode
