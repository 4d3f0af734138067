import BoardLint.Number.Binary64
import BoardLint.Query.Duration
import BoardLint.Query.Matcher

set_option autoImplicit false

/-! # Query expressions

The expressions of the query language. A selector chooses time series by name and labels; a range
selector adds a length of time; the other expressions combine them. -/

namespace BoardLint

/-! ## Selectors -/

/-- The point in time at which a selector is evaluated. Instants count in seconds since 1970; one
    before 1970 counts as zero. -/
inductive Instant where
  | start
  | finish
  | seconds (n : Nat)
deriving DecidableEq, Repr

/-- How far a selector looks back, or ahead when negative. -/
structure Offset where
  negative : Bool
  duration : Duration
deriving DecidableEq, Repr

/-- A choice of time series. When `groups` is not empty, the matchers of the query are in the groups
    and a series has to satisfy all matchers of one of them. -/
structure Selector where
  name : Option String
  matchers : List Matcher
  groups : List (List Matcher)
  instant : Option Instant
  offset : Option Offset
deriving DecidableEq, Repr

/-! ## Operators -/

/-- The operators that combine the series of one vector. -/
inductive AggregateOp where
  | sum | avg | count | min | max | group | stddev | stdvar | topk | bottomk | countValues
  | quantile
deriving DecidableEq, Repr

namespace AggregateOp

/-- The text of an operator. -/
def text : AggregateOp → String
  | .sum => "sum"
  | .avg => "avg"
  | .count => "count"
  | .min => "min"
  | .max => "max"
  | .group => "group"
  | .stddev => "stddev"
  | .stdvar => "stdvar"
  | .topk => "topk"
  | .bottomk => "bottomk"
  | .countValues => "count_values"
  | .quantile => "quantile"

/-- The aggregation operators. -/
def all : List AggregateOp :=
  [.sum, .avg, .count, .min, .max, .group, .stddev, .stdvar, .topk, .bottomk, .countValues,
    .quantile]

end AggregateOp

/-- The labels that an aggregation keeps or drops. -/
inductive Grouping where
  | by (labels : List String)
  | without (labels : List String)
deriving DecidableEq, Repr

/-- The operators between two expressions. -/
inductive BinaryOp where
  | or | and | unless
  | eq | ne | gt | lt | ge | le
  | add | sub
  | mul | div | mod | atan2
  | pow
deriving DecidableEq, Repr

namespace BinaryOp

/-- The text of an operator. -/
def text : BinaryOp → String
  | .or => "or"
  | .and => "and"
  | .unless => "unless"
  | .eq => "=="
  | .ne => "!="
  | .gt => ">"
  | .lt => "<"
  | .ge => ">="
  | .le => "<="
  | .add => "+"
  | .sub => "-"
  | .mul => "*"
  | .div => "/"
  | .mod => "%"
  | .atan2 => "atan2"
  | .pow => "^"

/-- How tightly an operator binds. -/
def precedence : BinaryOp → Nat
  | .or => 1
  | .and => 2
  | .unless => 2
  | .eq => 3
  | .ne => 3
  | .gt => 3
  | .lt => 3
  | .ge => 3
  | .le => 3
  | .add => 4
  | .sub => 4
  | .mul => 5
  | .div => 5
  | .mod => 5
  | .atan2 => 5
  | .pow => 6

/-- Whether the operator compares. -/
def isComparison (op : BinaryOp) : Bool := op.precedence == 3

/-- Whether the operator combines sets of series. -/
def isSet (op : BinaryOp) : Bool := op.precedence ≤ 2

end BinaryOp

/-- Which labels decide whether two series belong together. -/
inductive Matching where
  | on (labels : List String)
  | ignoring (labels : List String)
deriving DecidableEq, Repr

/-- The labels of a matching. -/
def Matching.labels : Matching → List String
  | .on labels => labels
  | .ignoring labels => labels

/-- Which side of an operator may have several series for one of the other, with the labels that it
    takes over. -/
inductive Grouped where
  | left (labels : List String)
  | right (labels : List String)
deriving DecidableEq, Repr

/-- The labels that are taken over. -/
def Grouped.labels : Grouped → List String
  | .left labels => labels
  | .right labels => labels

/-- The modifiers of an operator between two expressions. -/
structure BinaryModifier where
  returnBool : Bool
  matching : Option Matching
  grouped : Option Grouped
deriving DecidableEq, Repr

/-! ## Expressions -/

/-- A query expression. -/
inductive Expr where
  | aggregate (op : AggregateOp) (grouping : Option Grouping) (param : Option Expr) (body : Expr)
  | negate (body : Expr)
  | binary (op : BinaryOp) (modifier : BinaryModifier) (lhs rhs : Expr)
  | paren (body : Expr)
  | subquery (body : Expr) (range : Duration) (step : Option Duration) (instant : Option Instant)
      (offset : Option Offset)
  | number (value : Binary64)
  | text (value : String)
  | vector (selector : Selector)
  | matrix (selector : Selector) (range : Duration)
  | call (function : String) (args : List Expr)
deriving Repr, Inhabited

end BoardLint
