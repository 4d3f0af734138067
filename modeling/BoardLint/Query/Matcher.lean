import BoardLint.Regex.Parser
import BoardLint.Text.Quoted

set_option autoImplicit false

/-! # Label matchers

A label matcher such as `job=~"api.*"`: a label, an operator and a value. Values are the raw text
between the quotes of a query. -/

namespace BoardLint

/-- The operator of a label matcher. -/
inductive MatchOp where
  | equal
  | notEqual
  | regex
  | notRegex
deriving DecidableEq, Repr, Inhabited

namespace MatchOp

/-- The text of an operator. -/
def text : MatchOp → String
  | .equal => "="
  | .notEqual => "!="
  | .regex => "=~"
  | .notRegex => "!~"

/-- The operator with a text. -/
def ofText? (s : String) : Option MatchOp :=
  if s == "=" then some .equal
  else if s == "!=" then some .notEqual
  else if s == "=~" then some .regex
  else if s == "!~" then some .notRegex
  else none

/-- The message for a text that is no operator. -/
def unknownMessage (s : String) : String := "Unknown match operator: " ++ s

/-- Whether the value of a matcher with this operator is a regular expression. -/
def isRegex : MatchOp → Bool
  | .regex => true
  | .notRegex => true
  | _ => false

end MatchOp

/-- A label matcher. -/
structure Matcher where
  name : String
  op : MatchOp
  value : String
deriving DecidableEq, Repr, Inhabited

namespace Matcher

/-- The label that holds the name of a metric. -/
def metricLabel : String := "__name__"

/-- A matcher with its value quoted for a message. -/
def display (m : Matcher) : String :=
  m.name ++ m.op.text ++ Text.quoted m.value

/-- A matcher as it is written in a query, its value unchanged. -/
def write (m : Matcher) : String :=
  m.name ++ m.op.text ++ "\"" ++ m.value ++ "\""

/-- Whether the value is admissible in a query: the value of a regular expression has to be one,
    where a lone brace stands for itself. -/
def isReadable (m : Matcher) : Bool :=
  !m.op.isRegex || (Regex.parse? m.value.toList).isSome

/-- Whether the value is admissible when a matcher is set: a regular expression has to stay one
    between anchors. -/
def isSettable (m : Matcher) : Bool :=
  !m.op.isRegex || (Regex.compile? (Regex.anchored m.value.toList)).isSome

/-- Whether the matcher accepts the empty value. -/
def matchesEmpty (m : Matcher) : Bool :=
  let searched := ((Regex.parse? m.value.toList).map Regex.Pattern.matchesEmpty).getD false
  match m.op with
  | .equal => m.value.isEmpty
  | .notEqual => !m.value.isEmpty
  | .regex => searched
  | .notRegex => !searched

end Matcher

end BoardLint
