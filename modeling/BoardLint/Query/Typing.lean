import BoardLint.Query.Expr
import BoardLint.Query.Function

set_option autoImplicit false

/-! # Typing of queries

Every expression has a type, and each kind of expression admits only some types as its parts. The
builders of this file refuse an expression that is not well typed, so a query that can be built is
well typed throughout. -/

namespace BoardLint

open Query (ValueType Function)

namespace Expr

/-- The type of an expression. -/
def valueType : Expr → ValueType
  | .aggregate .. => .vector
  | .negate body => body.valueType
  | .binary _ _ lhs rhs =>
    if lhs.valueType == .scalar && rhs.valueType == .scalar then .scalar else .vector
  | .paren body => body.valueType
  | .subquery .. => .matrix
  | .number _ => .scalar
  | .text _ => .text
  | .vector _ => .vector
  | .matrix .. => .matrix
  | .call f _ => ((Function.find? f).map (·.result)).getD .vector

/-- Whether the expression is a number or an instant vector. -/
def isSample (e : Expr) : Bool := e.valueType == .scalar || e.valueType == .vector

/-! ## Selectors -/

/-- Whether a selector names its metric at most once, and at least one of its conditions is not met
    by a missing label. -/
def admissibleSelector (s : Selector) : Bool :=
  let all := s.matchers ++ s.groups.flatten
  match s.name with
  | some _ => all.all fun m => m.name != Matcher.metricLabel
  | none => all.any fun m => !m.matchesEmpty

/-- A selector as an expression. -/
def ofSelector? (s : Selector) : Option Expr :=
  if admissibleSelector s then some (.vector s) else none

/-- A range of a plain selector. -/
def range? (e : Expr) (d : Duration) : Option Expr :=
  match e with
  | .vector s => if s.offset.isNone && s.instant.isNone then some (.matrix s d) else none
  | _ => none

/-- A subquery of an instant vector. -/
def subquery? (e : Expr) (d : Duration) (step : Option Duration) : Option Expr :=
  if e.valueType == .vector then some (.subquery e d step none none) else none

/-- Adds an offset to a selector, a range or a subquery that has none. -/
def withOffset? (o : Offset) : Expr → Option Expr
  | .vector s => if s.offset.isNone then some (.vector { s with offset := some o }) else none
  | .matrix s d => if s.offset.isNone then some (.matrix { s with offset := some o } d) else none
  | .subquery e d step i none => some (.subquery e d step i (some o))
  | _ => none

/-- Adds an instant to a selector, a range or a subquery that has none. -/
def withInstant? (i : Instant) : Expr → Option Expr
  | .vector s => if s.instant.isNone then some (.vector { s with instant := some i }) else none
  | .matrix s d => if s.instant.isNone then some (.matrix { s with instant := some i } d) else none
  | .subquery e d step none o => some (.subquery e d step (some i) o)
  | _ => none

/-! ## Operators -/

/-- The opposite of a number or an instant vector. The sign of a literal becomes part of it. -/
def negate? : Expr → Option Expr
  | .number x => some (.number x.neg)
  | e => if e.isSample then some (.negate e) else none

/-- The type of the parameter that an aggregation takes in front of its vector. -/
def paramType? : AggregateOp → Option ValueType
  | .topk => some .scalar
  | .bottomk => some .scalar
  | .quantile => some .scalar
  | .countValues => some .text
  | _ => none

/-- An aggregation of arguments. -/
def aggregate? (op : AggregateOp) (grouping : Option Grouping) (args : List Expr) : Option Expr :=
  match paramType? op, args with
  | none, [body] =>
    if body.valueType == .vector then some (.aggregate op grouping none body) else none
  | some t, [param, body] =>
    if param.valueType == t && body.valueType == .vector then
      some (.aggregate op grouping (some param) body)
    else none
  | _, _ => none

/-- Whether the modifiers of an operator suit it and its sides. -/
def admissibleBinary (op : BinaryOp) (m : BinaryModifier) (lhs rhs : Expr) : Bool :=
  let scalars := lhs.valueType == .scalar && rhs.valueType == .scalar
  let vectors := lhs.valueType == .vector && rhs.valueType == .vector
  let matched := (m.matching.map Matching.labels).getD []
  let taken := (m.grouped.map Grouped.labels).getD []
  let shared := match m.matching with
    | some (.on labels) => labels.any taken.contains
    | _ => false
  (!m.returnBool || op.isComparison) && (!op.isComparison || !scalars || m.returnBool) &&
    !shared && (!op.isSet || (vectors && m.grouped.isNone)) && lhs.isSample && rhs.isSample &&
    (vectors || matched.isEmpty)

/-- An operator between two expressions. -/
def binary? (op : BinaryOp) (m : BinaryModifier) (lhs rhs : Expr) : Option Expr :=
  if admissibleBinary op m lhs rhs then some (.binary op m lhs rhs) else none

/-! ## Calls -/

/-- Whether a number literal is an argument for which a function of vectors has a value at infinity
    or none. -/
def isLimit (f : String) : Expr → Bool
  | .number x =>
    if f == "exp" then !x.isFinite
    else if f == "ln" || f == "log2" || f == "log10" then
      !x.isFinite || x.isZero || x.isNegative
    else false
  | _ => false

/-- A call of a function. -/
def call? (name : String) (args : List Expr) : Option Expr := do
  let f ← Function.find? name
  let typed := args.zipIdx.all fun (arg, i) => f.argType? i == some arg.valueType
  if f.acceptsCount args.length && (typed || args.any (isLimit name)) then some (.call name args)
  else none

end Expr

end BoardLint
