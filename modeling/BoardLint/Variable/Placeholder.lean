import BoardLint.Dashboard.Basic
import BoardLint.KeyMap
import BoardLint.Variable.Kind
import BoardLint.Variable.Reference

set_option autoImplicit false

/-! # Placeholders

A placeholder stands for a variable in a query that is to be parsed: a number of seconds for a
length of time, a number with three places for a point in time, and a word for anything else. A
table gives every variable its own placeholder and never takes it away again. -/

namespace BoardLint

/-! ## Single placeholders -/

/-- What stands for a variable in a query. -/
inductive Placeholder where
  | seconds (n : Nat)
  | instant (n : Nat)
  | word (name : List Char) (counter : Nat)
deriving DecidableEq, Repr

namespace Placeholder

/-- What a word begins with. -/
def seed : List Char := ['b', 'g', 'l', 'u', 'd', 'g', 'v', 'y', '_']

/-- The three places of a point in time. -/
def places : List Char := ['.', '0', '0', '0']

/-- The text of a placeholder. -/
def chars : Placeholder → List Char
  | .seconds n => Nat.toDigits 10 n
  | .instant n => Nat.toDigits 10 n ++ places
  | .word name counter => seed ++ name ++ '_' :: Nat.toDigits 10 counter

/-- The text of a placeholder as a string. -/
def text (p : Placeholder) : String := String.ofList p.chars

/-- The kind of variable that a placeholder stands for. -/
def kind : Placeholder → ValueKind
  | .seconds _ => .timeRange
  | .instant _ => .epoch
  | .word .. => .text

/-- The texts by which a placeholder is recognised: its own, and those by which its number is
    written in a query. -/
def forms : Placeholder → List (List Char)
  | .seconds n =>
    let digits := Nat.toDigits 10 n
    [digits, digits ++ ['s'], (Duration.ofSeconds n).chars]
  | .instant n => [Nat.toDigits 10 n ++ places, Nat.toDigits 10 n]
  | .word name counter => [(Placeholder.word name counter).chars]

/-- A name with every character that is not a word character replaced by an underscore. -/
def sanitize (name : List Char) : List Char :=
  name.map fun c => if Text.isWord c then c else '_'

/-- The placeholder for a variable at an attempt. -/
def candidate (reference : List Char) (kind : ValueKind) (counter : Nat) : Placeholder :=
  match kind with
  | .timeRange => .seconds (11277964 + counter)
  | .epoch => .instant (1294671549254 + counter)
  | .text => .word (sanitize (Variable.bare reference)) counter

/-- How many attempts follow the first. -/
def maxRetries : Nat := 10000

end Placeholder

/-! ## Tables -/

/-- A variable reference and its placeholder. -/
structure Entry where
  reference : List Char
  placeholder : Placeholder
deriving DecidableEq, Repr

/-- The placeholders of variable references, in the order of their creation. -/
structure Table where
  entries : List Entry
  /-- The position of the entry of each variable reference. -/
  byReference : KeyMap Nat
  /-- The position of the entry of each placeholder's text. -/
  byText : KeyMap Nat
deriving DecidableEq, Repr

namespace Table

/-- The table without entries. -/
def empty : Table := ⟨[], .empty, .empty⟩

/-- The entry whose position an index has for a text. -/
def entryAt? (t : Table) (index : KeyMap Nat) (text : List Char) : Option Entry :=
  (index.get? (String.ofList text)).bind fun i => t.entries[i]?

/-- The placeholder of a variable reference. -/
def placeholder? (t : Table) (reference : List Char) : Option Placeholder :=
  (t.entryAt? t.byReference reference).map (·.placeholder)

/-- The text that stands for a variable reference. -/
def value? (t : Table) (reference : List Char) : Option (List Char) :=
  (t.placeholder? reference).map Placeholder.chars

/-- The kind of a variable reference. -/
def kind? (t : Table) (reference : List Char) : Option ValueKind :=
  (t.placeholder? reference).map Placeholder.kind

/-- The variable reference that a placeholder's text stands for. -/
def reference? (t : Table) (value : List Char) : Option (List Char) :=
  (t.entryAt? t.byText value).map (·.reference)

/-- The table with one more entry, which both indices know. -/
def push (t : Table) (e : Entry) : Table where
  entries := t.entries ++ [e]
  byReference := t.byReference.insert (String.ofList e.reference) t.entries.length
  byText := t.byText.insert e.placeholder.text t.entries.length

/-- The first of the candidates from a counter on whose text is not taken. -/
def freeFrom? (t : Table) (reference : List Char) (kind : ValueKind) :
    Nat → Nat → Option Placeholder
  | 0, _ => none
  | attempts + 1, counter =>
    let p := Placeholder.candidate reference kind counter
    if (t.byText.get? p.text).isSome then t.freeFrom? reference kind attempts (counter + 1)
    else some p

/-- The placeholder of a variable reference and the table that has it. A reference without one gets
    a new one of the given kind. -/
def assign? (t : Table) (reference : List Char) (kind : ValueKind) :
    Option (Placeholder × Table) :=
  match t.placeholder? reference with
  | some p => some (p, t)
  | none =>
    (t.freeFrom? reference kind (Placeholder.maxRetries + 1) 0).map fun p =>
      (p, t.push ⟨reference, p⟩)

/-- Gives a placeholder to every spelling of a name. -/
def assignName? (t : Table) (name : String) (kind : ValueKind) : Option Table :=
  (Variable.spellings name).foldlM (fun t v => (t.assign? v.toList kind).map (·.2)) t

/-- Gives placeholders to names of the given kinds. -/
def assignNames? (t : Table) (names : List (String × ValueKind)) : Option Table :=
  names.foldlM (fun t (name, kind) => t.assignName? name kind) t

/-! ## Variables of the server -/

/-- The variables that the dashboard server provides. -/
def globals : List (String × ValueKind) := [
  ("__rate_interval", .timeRange), ("__rate_interval_ms", .timeRange),
  ("__interval", .timeRange), ("__interval_ms", .timeRange), ("__range_ms", .timeRange),
  ("__range_s", .timeRange), ("__range", .timeRange), ("__auto", .timeRange),
  ("__dashboard", .text), ("__from", .epoch), ("__to", .epoch), ("__name", .text),
  ("__org", .epoch), ("__org.name", .text), ("__user.id", .epoch), ("__user.login", .text),
  ("__user.email", .text), ("timeFilter", .text), ("__timeFilter", .text)]

/-- The table with the variables of the server. -/
def initial : Table := (empty.assignNames? globals).getD empty

/-! ## Template variables -/

/-- How many references to other templates are followed. -/
def maxAliases : Nat := 8

/-- The kind of a template variable. A literal value decides it; a reference has the kind of what it
    refers to, and `follow` gives that of another template by its name. -/
def classifyWith (t : Table) (follow : List Char → ValueKind) (template : Template) : ValueKind :=
  let value := template.chosen.toList
  let name := Variable.bare value
  if !Variable.hasMarks value then ValueKind.ofLiteral template.chosen
  else if ("__auto_interval".toList).isPrefixOf name then .timeRange
  else (t.kind? value).getD (follow (name.takeWhile (· != ':')))

/-- The kind of a template variable among others. So many references to other templates are
    followed; the last one counts as a text. -/
def classify (t : Table) (templates : List Template) : Nat → Template → ValueKind
  | 0 => t.classifyWith fun _ => .text
  | aliases + 1 => t.classifyWith fun name =>
    match templates.find? fun other => other.name.toList == name with
    | some other => t.classify templates aliases other
    | none => .text

/-- Gives placeholders to every template variable with a name. -/
def register? (t : Table) (templates : List Template) : Option Table :=
  (templates.filter fun template => !template.name.isEmpty).foldlM
    (fun t template =>
      t.assignName? template.name (t.classify templates maxAliases template)) t

end Table

end BoardLint
