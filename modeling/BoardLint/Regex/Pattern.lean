import BoardLint.Unicode.CodeSet

set_option autoImplicit false

/-! # Patterns

A regular expression in normal form: literals are joined, sequences and choices are flat, a choice
between single characters is a set, and what the branches of a choice begin with alike is taken out
of it. The operations that build patterns keep this form. -/

namespace BoardLint.Regex

open Unicode (CodeSet)

/-! ## Conditions on the surrounding text -/

/-- A condition on the text around a place. Lines may end with a carriage return and a line feed,
    and words may consist of the word characters of all of Unicode or of ASCII. -/
inductive Look where
  | textStart
  | textEnd
  | lineStart (crlf : Bool)
  | lineEnd (crlf : Bool)
  | boundary (wide : Bool)
  | noBoundary (wide : Bool)
  | wordStart (wide : Bool)
  | wordEnd (wide : Bool)
  | wordStartHalf (wide : Bool)
  | wordEndHalf (wide : Bool)
deriving DecidableEq, Repr

/-- Whether a condition holds in the empty text. -/
def Look.holdsOnEmpty : Look → Bool
  | .boundary _ => false
  | .wordStart _ => false
  | .wordEnd _ => false
  | _ => true

/-! ## Patterns -/

/-- A regular expression. -/
inductive Pattern where
  /-- The empty text. -/
  | empty
  /-- Bytes, of which there is at least one. -/
  | literal (bytes : List UInt8)
  /-- One character of a set; `wide` tells a set of characters from one of bytes. -/
  | chars (wide : Bool) (set : CodeSet)
  /-- The empty text where a condition holds. -/
  | look (condition : Look)
  /-- At least `least` and at most `most` times. -/
  | times (least : Nat) (most : Option Nat) (greedy : Bool) (body : Pattern)
  /-- What a group with a number captures. -/
  | group (index : Nat) (body : Pattern)
  /-- Patterns in a row. -/
  | seq (parts : List Pattern)
  /-- One of several patterns. -/
  | alt (branches : List Pattern)
deriving Repr, Inhabited

namespace Pattern

/-- No text at all. -/
def nothing : Pattern := .chars false .empty

mutual

/-- Whether two patterns are the same. -/
def same : Pattern → Pattern → Bool
  | .empty, .empty => true
  | .literal a, .literal b => a == b
  | .chars w s, .chars w' s' => w == w' && s == s'
  | .look l, .look l' => l == l'
  | .times n m g p, .times n' m' g' q => n == n' && m == m' && g == g' && same p q
  | .group i p, .group j q => i == j && same p q
  | .seq ps, .seq qs => sameAll ps qs
  | .alt ps, .alt qs => sameAll ps qs
  | _, _ => false

/-- Whether two lists of patterns are the same. -/
def sameAll : List Pattern → List Pattern → Bool
  | [], [] => true
  | p :: ps, q :: qs => same p q && sameAll ps qs
  | _, _ => false

end

/-! ## The empty text -/

mutual

/-- Whether the pattern matches the empty text. -/
def matchesEmpty : Pattern → Bool
  | .empty => true
  | .literal _ => false
  | .chars .. => false
  | .look l => l.holdsOnEmpty
  | .times least _ _ p => least == 0 || p.matchesEmpty
  | .group _ p => p.matchesEmpty
  | .seq parts => allMatchEmpty parts
  | .alt branches => anyMatchesEmpty branches

/-- Whether every pattern of a list matches the empty text. -/
def allMatchEmpty : List Pattern → Bool
  | [] => true
  | p :: rest => p.matchesEmpty && allMatchEmpty rest

/-- Whether some pattern of a list matches the empty text. -/
def anyMatchesEmpty : List Pattern → Bool
  | [] => false
  | p :: rest => p.matchesEmpty || anyMatchesEmpty rest

end

/-! ## Lengths -/

/-- How many bytes a character takes. -/
def byteCount (n : Nat) : Nat :=
  if n < 0x80 then 1 else if n < 0x800 then 2 else if n < 0x10000 then 3 else 4

/-- The sum of two lengths, if both are known. -/
def plus (a b : Option Nat) : Option Nat := a.bind fun a => b.map (a + ·)

mutual

/-- The least number of bytes that a match takes; none when nothing matches. -/
def minLength : Pattern → Option Nat
  | .empty => some 0
  | .literal bytes => some bytes.length
  | .chars _ s => s.bounds.head?.map byteCount
  | .look _ => some 0
  | .times least _ _ p => p.minLength.map (· * least)
  | .group _ p => p.minLength
  | .seq parts => minLengthOfRow parts
  | .alt branches => minLengthOfChoice branches

/-- The least length of patterns in a row. -/
def minLengthOfRow : List Pattern → Option Nat
  | [] => some 0
  | p :: rest => plus p.minLength (minLengthOfRow rest)

/-- The least length of one of several patterns; none when one of them has none. -/
def minLengthOfChoice : List Pattern → Option Nat
  | [] => none
  | [p] => p.minLength
  | p :: rest => p.minLength.bind fun a => (minLengthOfChoice rest).map (min a)

end

mutual

/-- The greatest number of bytes that a match takes; none when there is no bound. -/
def maxLength : Pattern → Option Nat
  | .empty => some 0
  | .literal bytes => some bytes.length
  | .chars _ s => s.bounds.getLast?.map fun after => byteCount (after - 1)
  | .look _ => some 0
  | .times _ most _ p => most.bind fun n => p.maxLength.map (· * n)
  | .group _ p => p.maxLength
  | .seq parts => maxLengthOfRow parts
  | .alt branches => maxLengthOfChoice branches

/-- The greatest length of patterns in a row. -/
def maxLengthOfRow : List Pattern → Option Nat
  | [] => some 0
  | p :: rest => plus p.maxLength (maxLengthOfRow rest)

/-- The greatest length of one of several patterns. -/
def maxLengthOfChoice : List Pattern → Option Nat
  | [] => none
  | [p] => p.maxLength
  | p :: rest => p.maxLength.bind fun a => (maxLengthOfChoice rest).map (max a)

end

/-! ## Building patterns -/

/-- The bytes of a character. -/
def bytesOf (n : Nat) : List UInt8 := (String.singleton (Char.ofNat n)).toUTF8.toList

/-- A character. -/
def ofChar (c : Char) : Pattern := .literal (bytesOf c.toNat)

/-- One character of a set. A single character is a literal. -/
def ofSet (wide : Bool) (s : CodeSet) : Pattern :=
  match s.bounds with
  | [] => nothing
  | [low, after] => if low + 1 == after then .literal (bytesOf low) else .chars wide s
  | _ => .chars wide s

/-- A repetition. What matches the empty text alone is repeated at most once. -/
def repeated (least : Nat) (most : Option Nat) (greedy : Bool) (p : Pattern) : Pattern :=
  let (least, most) :=
    if p.maxLength == some 0 then (min least 1, some ((most.map (min · 1)).getD 1))
    else (least, most)
  if least == 0 && most == some 0 then .empty
  else if least == 1 && most == some 1 then p
  else .times least most greedy p

/-- Puts a pattern in front of patterns in a row, where neighbouring literals are one. -/
def prepend (p : Pattern) (row : List Pattern) : List Pattern :=
  match p, row with
  | .empty, row => row
  | .literal a, .literal b :: rest => .literal (a ++ b) :: rest
  | p, row => p :: row

/-- Patterns in a row. -/
def ofRow (parts : List Pattern) : Pattern :=
  let flat := parts.flatMap fun
    | .seq inner => inner
    | p => [p]
  match flat.foldr prepend [] with
  | [] => .empty
  | [p] => p
  | row => .seq row

/-- The set of a pattern that is one character. -/
def set? : Pattern → Option CodeSet
  | .chars _ s => some s
  | .literal bytes =>
    match (String.fromUTF8? ⟨bytes.toArray⟩).map String.toList with
    | some [c] => some (.single c.toNat)
    | _ => none
  | _ => none

/-- The parts that two rows begin with alike. -/
def commonStart : List Pattern → List Pattern → List Pattern
  | p :: ps, q :: qs => if p.same q then p :: commonStart ps qs else []
  | _, _ => []

/-- The parts of a row; none for a pattern that is no row. -/
def row? : Pattern → Option (List Pattern)
  | .seq parts => some parts
  | _ => none

/-- One of several patterns. A choice among them is part of this one, single characters are a set,
    and what all begin with is taken out. The number bounds how often that is done. -/
def ofChoice : Nat → List Pattern → Pattern
  | fuel, branches =>
    let flat := branches.flatMap fun
      | .alt inner => inner
      | p => [p]
    match flat with
    | [] => nothing
    | [p] => p
    | first :: others =>
      match flat.mapM set? with
      | some sets => ofSet true (.unions sets)
      | none =>
        let shared := do
          let first ← row? first
          let others ← others.mapM row?
          some (others.foldl commonStart first)
        match shared, fuel with
        | some (p :: ps), fuel + 1 =>
          let n := (p :: ps).length
          let rests := flat.map fun b => ofRow (((row? b).getD []).drop n)
          ofRow (p :: ps ++ [ofChoice fuel rests])
        | _, _ => .alt flat

/-- How many parts a pattern has in a row. -/
def rowLength (p : Pattern) : Nat := ((row? p).map List.length).getD 1

/-- One of several patterns. -/
def oneOf (branches : List Pattern) : Pattern :=
  ofChoice ((branches.map rowLength).foldl (· + ·) 0 + 1) branches

end Pattern

end BoardLint.Regex
