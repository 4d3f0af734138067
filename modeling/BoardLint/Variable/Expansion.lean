import BoardLint.Query.Parser
import BoardLint.Query.Walk
import BoardLint.Variable.Placeholder

set_option autoImplicit false

/-! # Expansion of variables

Variables are no part of the query language. Before a query is parsed, `Table.substitute` replaces
them by placeholders, and `Table.revert` puts them back into a text that was printed. References
inside double quotes stay as they are. -/

namespace BoardLint

/-- Why a query cannot be expanded and parsed. -/
inductive ExpandError where
  /-- A reference with more formats than its variable has. -/
  | unknownFormat (token : String)
  /-- A text that is no query after expansion. -/
  | unparsable (text : String)
  /-- A variable for which every placeholder is taken. -/
  | exhausted (reference : String)
deriving DecidableEq, Repr

/-- The message of an error. -/
def ExpandError.message : ExpandError → String
  | .unknownFormat token => "unknown variable format in " ++ token
  | .unparsable text => "failed to parse expression: " ++ text
  | .exhausted reference => "no free placeholder for " ++ reference

/-! ## Positions in a query -/

/-- Whether a position is inside double quotes, and whether a backslash precedes it there. -/
structure Quotes where
  inside : Bool
  escaped : Bool
deriving DecidableEq, Repr

namespace Quotes

/-- The position at the beginning of a text. -/
def start : Quotes := ⟨false, false⟩

/-- The position after one more character. -/
def step (q : Quotes) (c : Char) : Quotes :=
  if q.escaped then { q with escaped := false }
  else if c == '\\' && q.inside then { q with escaped := true }
  else if c == '"' then { q with inside := !q.inside }
  else q

end Quotes

/-- Whether a duration is expected after a text: after an opening bracket, after a colon between
    brackets, or after the word `offset`. -/
def expectsDuration (before : List Char) : Bool :=
  let trimmed := Text.trimEnd before
  let word := (trimmed.reverse.takeWhile Text.isAsciiWord).reverse
  trimmed.getLast? == some '[' ||
    (trimmed.getLast? == some ':' && trimmed.count '[' > trimmed.count ']') ||
    String.ofList (word.map Char.toLower) == "offset"

/-- Whether a letter or digit of ASCII comes next. -/
def continuesWord : List Variable.Piece → Bool
  | .char c :: _ => c.isAlphanum
  | _ => false

/-- The unit between a placeholder and the pieces after it: that of seconds behind a length of time
    where a duration is expected, unless a unit may follow already. -/
def unitAfter (before : List Char) (p : Placeholder) (rest : List Variable.Piece) : List Char :=
  if expectsDuration before && !continuesWord rest && p.kind == .timeRange then ['s'] else []

/-- The kind of placeholder that a reference asks for. A reference may have one format, those to the
    ends of the time window two. -/
def kindOfToken (token : List Char) : Except ExpandError ValueKind :=
  let colons := (Variable.bare token).count ':'
  let name := Variable.nameOf token
  let isWindow := name == "__from".toList || name == "__to".toList
  let text := String.ofList token
  if colons == 0 then .ok .text
  else if isWindow then if colons > 2 then .error (.unknownFormat text) else .ok .epoch
  else if colons > 1 then .error (.unknownFormat text)
  else .ok .text

namespace Table

/-! ## Substitution -/

/-- The placeholder of a reference, and the table that has it. -/
def ofToken (t : Table) (token : List Char) : Except ExpandError (Placeholder × Table) :=
  match kindOfToken token with
  | .error e => .error e
  | .ok kind =>
    match t.assign? token kind with
    | some result => .ok result
    | none => .error (.exhausted (String.ofList token))

/-- Replaces the references of the remaining pieces. `out` is what was written so far, in reverse
    order. The table keeps the placeholders that were made before an error. -/
def substituteFrom (t : Table) (out : List Char) (quotes : Quotes) :
    List Variable.Piece → Table × Except ExpandError (List Char)
  | [] => (t, .ok out.reverse)
  | .char c :: rest => t.substituteFrom (c :: out) (quotes.step c) rest
  | .token token :: rest =>
    let after := token.foldl Quotes.step quotes
    if quotes.inside then t.substituteFrom (token.reverse ++ out) after rest
    else
      match t.ofToken token with
      | .error e => (t, .error e)
      | .ok (p, t) =>
        let written := p.chars ++ unitAfter out.reverse p rest
        t.substituteFrom (written.reverse ++ out) after rest

/-- Replaces the references of a text outside double quotes by placeholders. Where a duration is
    expected, a length of time is given the unit of seconds unless a unit may follow already. -/
def substitute (t : Table) (text : List Char) : Table × Except ExpandError (List Char) :=
  t.substituteFrom [] Quotes.start (Variable.pieces text)

/-! ## Reverting -/

/-- The forms of all placeholders with their variables, the longest first. -/
def patterns (t : Table) : List (List Char × List Char) :=
  let all := t.entries.flatMap fun e => e.placeholder.forms.map fun form => (form, e.reference)
  let size (text : List Char) : Nat := (String.ofList text).utf8ByteSize
  all.mergeSort fun a b => size b.1 ≤ size a.1

/-- The variable of the first pattern at the beginning of a text, and the rest of the text. -/
def firstMatch? (text : List Char) :
    List (List Char × List Char) → Option (List Char × List Char)
  | [] => none
  | (form, reference) :: rest =>
    match Text.after? form text with
    | some tail => some (reference, tail)
    | none => firstMatch? text rest

/-- Puts variables back from the front. A pattern is never empty, so the length of the text is fuel
    enough. -/
def revertFrom (patterns : List (List Char × List Char)) : Nat → List Char → List Char
  | 0, _ => []
  | _, [] => []
  | fuel + 1, c :: text =>
    match firstMatch? (c :: text) patterns with
    | some (reference, rest) => reference ++ revertFrom patterns fuel rest
    | none => c :: revertFrom patterns fuel text

/-- Puts the variables of a table back into a text. At each position the longest form wins. -/
def revert (t : Table) (text : List Char) : List Char :=
  revertFrom t.patterns text.length text

end Table

/-! ## Queries -/

/-- A query with its variables expanded, and the table to put them back. -/
structure ExpandedQuery where
  table : Table
  text : List Char
  expr : Expr

namespace ExpandedQuery

/-- Expands the variables of a query and parses it. -/
def parse (text : String) (templates : List Template) : Except ExpandError ExpandedQuery :=
  match Table.initial.register? templates with
  | none => .error (.exhausted text)
  | some table =>
    match table.substitute text.toList with
    | (_, .error e) => .error e
    | (table, .ok expanded) =>
      match Query.parse? (String.ofList expanded) with
      | some expr => .ok ⟨table, expanded, expr⟩
      | none => .error (.unparsable (String.ofList expanded))

/-- Whether a range is the placeholder of `__rate_interval` in any spelling. -/
def isRateInterval (q : ExpandedQuery) (range : Duration) : Bool :=
  (Variable.spellings "__rate_interval").any fun reference =>
    match q.table.placeholder? reference.toList with
    | some (.seconds n) => Duration.ofSeconds n == range
    | _ => false

/-- The text of a part of the query with its variables put back. -/
def revert (q : ExpandedQuery) (e : Expr) : String := String.ofList (q.table.revert e.chars)

/-- The text of the query with its variables put back. -/
def render (q : ExpandedQuery) : String := q.revert q.expr

end ExpandedQuery

end BoardLint
