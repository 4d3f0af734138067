import BoardLint.Regex.Escape

set_option autoImplicit false

/-! # Bracketed sets

A set of characters between brackets: characters, ranges, escapes, named sets such as `[:alpha:]`,
sets inside sets, and the operators `&&`, `--` and `~~`, which bind weaker than the union of what
stands side by side and group to the left. With the set comes how deep its notation is nested. -/

namespace BoardLint.Regex

open Unicode (CodeSet)

/-! ## Named sets -/

/-- The ASCII sets by their names. -/
def asciiSets : List (String × List (Nat × Nat)) := [
  ("alnum", [(48, 57), (65, 90), (97, 122)]), ("alpha", [(65, 90), (97, 122)]),
  ("ascii", [(0, 127)]), ("blank", [(9, 9), (32, 32)]), ("cntrl", [(0, 31), (127, 127)]),
  ("digit", [(48, 57)]), ("graph", [(33, 126)]), ("lower", [(97, 122)]), ("print", [(32, 126)]),
  ("punct", [(33, 47), (58, 64), (91, 96), (123, 126)]), ("space", [(9, 13), (32, 32)]),
  ("upper", [(65, 90)]), ("word", asciiWordRanges), ("xdigit", [(48, 57), (65, 70), (97, 102)])]

/-- The name of a set such as `[:alpha:]` or `[:^alpha:]`, whether it stands for the complement, and
    the text after it. -/
def scanAsciiName? (text : List Char) : Option (List (Nat × Nat) × Bool × List Char) := do
  let text ← Text.after? ['[', ':'] text
  let (negated, text) := match text with
    | '^' :: rest => (true, rest)
    | _ => (false, text)
  let (name, rest) := text.span (· != ':')
  let rest ← Text.after? [':', ']'] rest
  let ranges ← (asciiSets.find? fun (k, _) => k == String.ofList name).map (·.2)
  some (ranges, negated, rest)

/-! ## Sets that are being read -/

/-- An operator between sets. -/
inductive SetOp where
  | intersection
  | difference
  | symmetricDifference
deriving DecidableEq, Repr

/-- The result of an operator. -/
def SetOp.apply : SetOp → CodeSet → CodeSet → CodeSet
  | .intersection, s, t => s.inter t
  | .difference, s, t => s.diff t
  | .symmetricDifference, s, t => s.symmDiff t

/-- A set and how deep its notation is nested. -/
structure Nested where
  set : CodeSet
  depth : Nat
deriving Repr

/-- A set whose closing bracket has not been read: the operand and the operator in front of the
    items, if there are any, and the items in reverse order. -/
structure OpenSet where
  negated : Bool
  left : Option (Nested × SetOp)
  items : List Nested
deriving Repr

namespace OpenSet

/-- Adds an item. -/
def push (o : OpenSet) (item : Nested) : OpenSet := { o with items := item :: o.items }

/-- The items as one set; more than one of them are a union. -/
def union (o : OpenSet) : Nested :=
  match o.items with
  | [item] => item
  | items =>
    let deepest := (items.map (·.depth)).foldl max 0
    ⟨.unions (items.map (·.set)), if items.isEmpty then 0 else deepest + 1⟩

/-- What has been read so far as one operand. -/
def operand (m : Mode) (o : OpenSet) : Nested :=
  match o.left with
  | none => o.union
  | some (left, op) =>
    let right := o.union
    ⟨op.apply (m.fold left.set) (m.fold right.set), max left.depth right.depth + 1⟩

/-- The state after an operator. -/
def operator (m : Mode) (o : OpenSet) (op : SetOp) : OpenSet :=
  { o with left := some (o.operand m, op), items := [] }

/-- The set at its closing bracket. -/
def close? (m : Mode) (o : OpenSet) : Option Nested :=
  let inner := o.operand m
  (m.refine? o.negated inner.set).map fun s => ⟨s, inner.depth + 1⟩

end OpenSet

/-! ## Reading -/

/-- A set of a single character. -/
def singleItem (c : Char) : Nested := ⟨.single c.toNat, 0⟩

/-- The hyphens at the beginning of a set, which are literal. -/
def scanHyphens (m : Mode) : Nat → OpenSet → List Char → OpenSet × List Char
  | 0, o, text => (o, text)
  | fuel + 1, o, text =>
    match text with
    | '-' :: rest => scanHyphens m fuel (o.push (singleItem '-')) (m.skip rest)
    | _ => (o, text)

/-- The beginning of a set after its opening bracket: its negation, and the hyphens or the closing
    bracket that are literal at this place. -/
def scanSetStart (m : Mode) (text : List Char) : OpenSet × List Char :=
  let text := m.skip text
  let (negated, text) := match text with
    | '^' :: rest => (true, m.skip rest)
    | _ => (false, text)
  match text with
  | ']' :: rest => ((⟨negated, none, []⟩ : OpenSet).push (singleItem ']'), m.skip rest)
  | _ => scanHyphens m text.length ⟨negated, none, []⟩ text

/-- One item of a set, which is a set or a single character. A set that is not wide has ASCII
    characters alone. -/
def scanItem? (m : Mode) : List Char → Option (Atom × List Char)
  | [] => none
  | c :: text => do
    let (atom, rest) ← if c == '\\' then scanEscape? m text else some (.literal c false, text)
    match atom with
    | .literal c _ => if !m.wide && c.toNat ≥ 128 then none else some (atom, rest)
    | _ => some (atom, rest)

/-- Whether a hyphen at the beginning of the text makes a range with what follows it. -/
def beginsRange (m : Mode) : List Char → Bool
  | '-' :: text =>
    match m.skip text with
    | ']' :: _ => false
    | '-' :: _ => false
    | _ => true
  | _ => false

/-- An item or a range, and the rest of the text. The ends of a range are literal and in order. -/
def scanRange? (m : Mode) (text : List Char) : Option (Nested × List Char) := do
  let (first, text) ← scanItem? m text
  let text := m.skip text
  if beginsRange m text then
    let (last, rest) ← scanItem? m (m.skip (text.drop 1))
    match first, last with
    | .literal a _, .literal b _ =>
      if a ≤ b then some (⟨.range a.toNat b.toNat, 0⟩, rest) else none
    | _, _ => none
  else
    match first with
    | .literal c _ => some (singleItem c, text)
    | .set s => some (⟨s, 0⟩, text)
    | .look _ => none

/-- The operator at the beginning of a text, and the rest. -/
def scanOperator? : List Char → Option (SetOp × List Char)
  | '&' :: '&' :: rest => some (.intersection, rest)
  | '-' :: '-' :: rest => some (.difference, rest)
  | '~' :: '~' :: rest => some (.symmetricDifference, rest)
  | _ => none

/-- Reads to the bracket that closes the outermost set; the sets that are open come with the
    innermost first. Every step shortens the text, so its length is fuel enough. -/
def readSets? (m : Mode) : Nat → OpenSet → List OpenSet → List Char → Option (Nested × List Char)
  | 0, _, _, _ => none
  | fuel + 1, o, outer, text =>
    match m.skip text with
    | [] => none
    | '[' :: rest =>
      match scanAsciiName? ('[' :: rest) with
      | some (ranges, negated, rest) =>
        match m.refine? negated (ofIncreasing ranges) with
        | some s => readSets? m fuel (o.push ⟨s, 0⟩) outer rest
        | none => none
      | none =>
        let (inner, rest) := scanSetStart m rest
        readSets? m fuel inner (o :: outer) rest
    | ']' :: rest =>
      match o.close? m, outer with
      | some s, [] => some (s, rest)
      | some s, o :: outer => readSets? m fuel (o.push s) outer rest
      | none, _ => none
    | text =>
      match scanOperator? text with
      | some (op, rest) => readSets? m fuel (o.operator m op) outer rest
      | none =>
        match scanRange? m text with
        | some (item, rest) => readSets? m fuel (o.push item) outer rest
        | none => none

/-- A set whose opening bracket was just read, and the rest of the text. -/
def scanSet? (m : Mode) (text : List Char) : Option (Nested × List Char) :=
  let (o, rest) := scanSetStart m text
  readSets? m (rest.length + 1) o [] rest

end BoardLint.Regex
