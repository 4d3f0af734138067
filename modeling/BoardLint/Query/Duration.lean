import BoardLint.Text.Basic

set_option autoImplicit false

/-! # Durations

Durations of the query language, in milliseconds. A text such as `1h30m` names each unit at most
once, from the largest to the smallest. The canonical text uses years and weeks only for an exact
number of them, so `8d` stays in days. -/

namespace BoardLint

/-- A length of time in milliseconds. -/
structure Duration where
  millis : Nat
deriving DecidableEq, Repr, Inhabited

namespace Duration

/-- The units of a duration, from the largest. -/
inductive Scale where
  | year
  | week
  | day
  | hour
  | minute
  | second
  | milli
deriving DecidableEq, Repr

/-- The units, from the largest. -/
def scales : List Scale := [.year, .week, .day, .hour, .minute, .second, .milli]

namespace Scale

/-- The milliseconds of a unit. A year has 365 days. -/
def millis : Scale → Nat
  | .year => 365 * 24 * 60 * 60 * 1000
  | .week => 7 * 24 * 60 * 60 * 1000
  | .day => 24 * 60 * 60 * 1000
  | .hour => 60 * 60 * 1000
  | .minute => 60 * 1000
  | .second => 1000
  | .milli => 1

/-- The text of a unit. -/
def mark : Scale → List Char
  | .year => ['y']
  | .week => ['w']
  | .day => ['d']
  | .hour => ['h']
  | .minute => ['m']
  | .second => ['s']
  | .milli => ['m', 's']

/-- Whether a unit is written only for an exact number of it. -/
def onlyExact : Scale → Bool
  | .year => true
  | .week => true
  | _ => false

end Scale

/-! ## Canonical text -/

/-- The components of a number of milliseconds in the given units. -/
def components (millis : Nat) : List Scale → List (Nat × Scale)
  | [] => []
  | u :: rest =>
    if u.onlyExact && millis % u.millis != 0 then components millis rest
    else if millis / u.millis == 0 then components millis rest
    else (millis / u.millis, u) :: components (millis % u.millis) rest

/-- The text of one component. -/
def component (n : Nat) (u : Scale) : List Char := Nat.toDigits 10 n ++ u.mark

/-- The canonical text of a duration. -/
def chars (d : Duration) : List Char :=
  if d.millis == 0 then ['0', 's']
  else (components d.millis scales).flatMap fun (n, u) => component n u

/-- The canonical text of a duration as a string. -/
def display (d : Duration) : String := String.ofList d.chars

/-- A whole number of seconds. -/
def ofSeconds (n : Nat) : Duration := ⟨n * 1000⟩

/-! ## Reading -/

/-- The digits of a component in front of a unit, if the text begins with one. -/
def component? (u : Scale) (text : List Char) : Option (List Char × List Char) :=
  match text.span Char.isDigit with
  | ([], _) => none
  | (digits, rest) => (Text.after? u.mark rest).map fun rest => (digits, rest)

/-- The value of the digits of a component; one that 32 bits do not hold counts as nothing. -/
def amount (digits : List Char) : Nat :=
  let n := Text.digitsValue digits
  if n < Nat.pow 2 32 then n else 0

/-- The milliseconds of a text whose units are among the given ones, in their order. A component is
    minutes only if what follows it can be read with the smaller units. -/
def millis? : List Scale → List Char → Option Nat
  | _, [] => some 0
  | [], _ :: _ => none
  | u :: rest, c :: text =>
    match component? u (c :: text) with
    | none => millis? rest (c :: text)
    | some (digits, tail) =>
      match millis? rest tail with
      | some n => some (amount digits * u.millis + n)
      | none => millis? rest (c :: text)

/-- The duration that a text denotes; nothing and zero are refused. -/
def parse? (text : List Char) : Option Duration :=
  match millis? scales text with
  | some 0 => none
  | some n => some ⟨n⟩
  | none => none

/-! ## Numbers of seconds -/

/-- The texts by which a number of seconds is known in a query: its digits, the digits with the
    unit, and the canonical duration. A negative number has no canonical duration and keeps its
    digits. -/
def encodings (seconds : Int) : List (String × String) :=
  let digits := toString seconds
  [("seconds", digits), ("seconds-suffix", digits ++ "s"),
    ("pretty", if seconds < 0 then digits else (ofSeconds seconds.toNat).display)]

end Duration

end BoardLint
