import BoardLint.Number.Literal
import BoardLint.Query.Duration

set_option autoImplicit false

/-! # Kinds of variable values

What a variable stands for in a query: a text, a length of time, or a point in time. A literal value
is classified by what it can be read as, a bare whole number as a number of seconds. -/

namespace BoardLint

/-- What a variable stands for. -/
inductive ValueKind where
  | text
  | timeRange
  | epoch
deriving DecidableEq, Repr, Inhabited

namespace ValueKind

/-- The name of a kind. -/
def name : ValueKind → String
  | .text => "string"
  | .timeRange => "time-range"
  | .epoch => "epoch"

/-- The kind with a name. -/
def ofName? (s : String) : Option ValueKind :=
  [text, timeRange, epoch].find? fun k => k.name == s

/-- The kind of a literal value. -/
def ofLiteral (value : String) : ValueKind :=
  let chars := value.toList
  let duration := if (Text.int64? chars).isSome then chars ++ ['s'] else chars
  if (Duration.parse? duration).isSome then .timeRange
  else if (Binary64.ofText? chars).isSome then .epoch
  else .text

end ValueKind

end BoardLint
