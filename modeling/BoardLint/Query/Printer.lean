import BoardLint.Number.Literal
import BoardLint.Query.Expr

set_option autoImplicit false

/-! # Writing queries

The text of a query expression. Plain matchers are written in alphabetical order; matchers in groups
are written group by group as they stand, and then no plain matcher is written. Strings keep the raw
text they were read with. -/

namespace BoardLint

/-! ## Selectors -/

/-- Drops every `or` with a space before it from the beginning. -/
def dropLeadingOr : List Char → List Char
  | ' ' :: 'o' :: 'r' :: rest => dropLeadingOr rest
  | text => text

/-- The groups of a selector with `or` between them. The word is written before every group and then
    dropped from the beginning, together with the blanks around the whole. -/
def writeGroups (groups : List (List Matcher)) : List Char :=
  Text.trim (dropLeadingOr (groups.flatMap fun g =>
    " or ".toList ++ List.intercalate ", ".toList (g.map fun m => m.write.toList)))

/-- Plain matchers in alphabetical order of their text. -/
def writeMatchers (matchers : List Matcher) : List Char :=
  (String.intercalate "," ((matchers.map Matcher.write).mergeSort fun a b => a ≤ b)).toList

namespace Instant

/-- An instant: whole seconds, as the nearest double, with three places. -/
def chars : Instant → List Char
  | .start => "start()".toList
  | .finish => "end()".toList
  | .seconds n =>
    let whole := match Binary64.ofNat n with
      | .finite _ m e => Binary64.roundAbs m e
      | _ => n
    Nat.toDigits 10 whole ++ ".000".toList

end Instant

/-- The instant and the offset after a selector or a subquery. -/
def writeTimes (instant : Option Instant) (offset : Option Offset) : List Char :=
  let at' := match instant with
    | some i => " @ ".toList ++ i.chars
    | none => []
  let offset' := match offset with
    | some o => (if o.negative then " offset -".toList else " offset ".toList) ++ o.duration.chars
    | none => []
  at' ++ offset'

namespace Selector

/-- A selector without its times. -/
def base (s : Selector) : List Char :=
  let inner := if s.groups.isEmpty then writeMatchers s.matchers else writeGroups s.groups
  let braces := if s.matchers.isEmpty && s.groups.isEmpty then [] else
    '\x7b' :: inner ++ ['\x7d']
  (s.name.getD "").toList ++ braces

/-- The text of a selector. -/
def chars (s : Selector) : List Char := s.base ++ writeTimes s.instant s.offset

/-- The text of a range. -/
def rangeChars (s : Selector) (range : Duration) : List Char :=
  s.base ++ '[' :: range.chars ++ ']' :: writeTimes s.instant s.offset

end Selector

/-! ## Modifiers -/

/-- Labels between parentheses. -/
def writeLabels (labels : List String) : List Char :=
  '(' :: (String.intercalate ", " labels).toList ++ [')']

/-- What stands between an aggregation and its arguments. Keeping no label is the same as having no
    grouping. -/
def writeGrouping : Option Grouping → List Char
  | none => []
  | some (.by []) => []
  | some (.by labels) => " by ".toList ++ writeLabels labels ++ [' ']
  | some (.without labels) => " without ".toList ++ writeLabels labels ++ [' ']

/-- The modifiers of an operator, each after a space. Ignoring no label is not written. -/
def writeModifier (m : BinaryModifier) : List Char :=
  let flag := if m.returnBool then " bool".toList else []
  let matching := match m.matching with
    | none => []
    | some (.on labels) => " on ".toList ++ writeLabels labels
    | some (.ignoring []) => []
    | some (.ignoring labels) => " ignoring ".toList ++ writeLabels labels
  let grouped := match m.grouped with
    | none => []
    | some (.left labels) => " group_left ".toList ++ writeLabels labels
    | some (.right labels) => " group_right ".toList ++ writeLabels labels
  flag ++ matching ++ grouped

/-! ## Expressions -/

namespace Expr

mutual

/-- The text of an expression. -/
def chars : Expr → List Char
  | .aggregate op grouping none body =>
    op.text.toList ++ writeGrouping grouping ++ '(' :: body.chars ++ [')']
  | .aggregate op grouping (some param) body =>
    op.text.toList ++ writeGrouping grouping ++ '(' :: param.chars ++ ',' :: ' ' :: body.chars ++
      [')']
  | .negate body => '-' :: body.chars
  | .binary op m lhs rhs =>
    lhs.chars ++ ' ' :: op.text.toList ++ writeModifier m ++ ' ' :: rhs.chars
  | .paren body => '(' :: body.chars ++ [')']
  | .subquery body range step instant offset =>
    body.chars ++ '[' :: range.chars ++ ':' :: (step.map Duration.chars).getD [] ++
      ']' :: writeTimes instant offset
  | .number x => x.plain
  | .text s => '"' :: s.toList ++ ['"']
  | .vector s => s.chars
  | .matrix s range => s.rangeChars range
  | .call f args => f.toList ++ '(' :: argChars args ++ [')']

/-- The text of arguments. -/
def argChars : List Expr → List Char
  | [] => []
  | [e] => e.chars
  | e :: f :: rest => e.chars ++ ',' :: ' ' :: argChars (f :: rest)

end

/-- The text of an expression as a string. -/
def write (e : Expr) : String := String.ofList e.chars

end Expr

end BoardLint
