set_option autoImplicit false

/-! # Functions and types

The types of query expressions and the functions of the language with their signatures. -/

namespace BoardLint.Query

/-- What an expression evaluates to. -/
inductive ValueType where
  | scalar
  | vector
  | matrix
  | text
deriving DecidableEq, Repr

/-- A function of the query language. With `optionalLast`, the last argument may be missing. -/
structure Function where
  name : String
  args : List ValueType
  optionalLast : Bool
  result : ValueType
deriving DecidableEq, Repr

namespace Function

/-- Functions of an instant vector. -/
def ofVector : List String := [
  "abs", "absent", "acos", "acosh", "asin", "asinh", "atan", "atanh", "ceil", "cos", "cosh", "deg",
  "exp", "floor", "histogram_count", "histogram_sum", "ln", "log10", "log2", "rad", "sgn", "sin",
  "sinh", "sort", "sort_desc", "sqrt", "tan", "tanh", "timestamp"]

/-- Functions of a range. -/
def ofMatrix : List String := [
  "absent_over_time", "avg_over_time", "changes", "count_over_time", "delta", "deriv", "idelta",
  "increase", "irate", "last_over_time", "max_over_time", "min_over_time", "present_over_time",
  "rate", "resets", "stddev_over_time", "stdvar_over_time", "sum_over_time"]

/-- Functions of the date, of the current time when they have no argument. -/
def ofDate : List String := [
  "days_in_month", "day_of_month", "day_of_week", "day_of_year", "hour", "minute", "month", "year"]

/-- Functions with a signature of their own. -/
def others : List Function := [
  ⟨"scalar", [.vector], false, .scalar⟩,
  ⟨"clamp", [.vector, .scalar, .scalar], false, .vector⟩,
  ⟨"clamp_max", [.vector, .scalar], false, .vector⟩,
  ⟨"clamp_min", [.vector, .scalar], false, .vector⟩,
  ⟨"histogram_quantile", [.scalar, .vector], false, .vector⟩,
  ⟨"histogram_fraction", [.scalar, .scalar, .vector], false, .vector⟩,
  ⟨"holt_winters", [.matrix, .scalar, .scalar], false, .vector⟩,
  ⟨"predict_linear", [.matrix, .scalar], false, .vector⟩,
  ⟨"quantile_over_time", [.scalar, .matrix], false, .vector⟩,
  ⟨"label_replace", [.vector, .text, .text, .text, .text], false, .vector⟩,
  ⟨"vector", [.scalar], false, .vector⟩,
  ⟨"pi", [], false, .scalar⟩,
  ⟨"time", [], false, .scalar⟩,
  ⟨"round", [.vector, .scalar], true, .vector⟩,
  ⟨"label_join", [.vector, .text, .text, .text], true, .vector⟩]

/-- The function with a name. -/
def find? (name : String) : Option Function :=
  if ofVector.contains name then some ⟨name, [.vector], false, .vector⟩
  else if ofMatrix.contains name then some ⟨name, [.matrix], false, .vector⟩
  else if ofDate.contains name then some ⟨name, [.vector], true, .vector⟩
  else others.find? fun f => f.name == name

/-- Whether a function can be called with a number of arguments; `label_join` takes any number of
    further texts. -/
def acceptsCount (f : Function) (count : Nat) : Bool :=
  if f.optionalLast then
    f.args.length - 1 ≤ count && (count ≤ f.args.length || f.name == "label_join")
  else count == f.args.length

/-- The type of the argument at a position; arguments beyond the last have its type. -/
def argType? (f : Function) (i : Nat) : Option ValueType :=
  f.args[min i (f.args.length - 1)]?

end Function

end BoardLint.Query
