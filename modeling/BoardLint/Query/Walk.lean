import BoardLint.Query.Printer
import BoardLint.Query.Typing

set_option autoImplicit false

/-! # Walking through queries

Two ways through an expression: `walk` lists every expression inside it, each with the expressions
around it, and `visitSelectors` visits every selector to change it. A selector under a range belongs
to the range and is no expression of its own. -/

namespace BoardLint

namespace Expr

/-! ## Every expression -/

/-- The direct parts of an expression, in the order of the text. -/
def children : Expr → List Expr
  | .aggregate _ _ none body => [body]
  | .aggregate _ _ (some param) body => [param, body]
  | .negate body => [body]
  | .binary _ _ lhs rhs => [lhs, rhs]
  | .paren body => [body]
  | .subquery body .. => [body]
  | .call _ args => args
  | _ => []

/-- An expression inside a query and the expressions around it, the outermost first. -/
structure Visit where
  path : List Expr
  expr : Expr
deriving Repr, Inhabited

mutual

/-- The expression itself, then every expression inside it, from the front. -/
def walkFrom (path : List Expr) : Expr → List Visit
  | .aggregate op g none body =>
    let e := Expr.aggregate op g none body
    ⟨path, e⟩ :: walkFrom (path ++ [e]) body
  | .aggregate op g (some param) body =>
    let e := Expr.aggregate op g (some param) body
    ⟨path, e⟩ :: (walkFrom (path ++ [e]) param ++ walkFrom (path ++ [e]) body)
  | .negate body => ⟨path, .negate body⟩ :: walkFrom (path ++ [.negate body]) body
  | .binary op m lhs rhs =>
    let e := Expr.binary op m lhs rhs
    ⟨path, e⟩ :: (walkFrom (path ++ [e]) lhs ++ walkFrom (path ++ [e]) rhs)
  | .paren body => ⟨path, .paren body⟩ :: walkFrom (path ++ [.paren body]) body
  | .subquery body range step instant offset =>
    let e := Expr.subquery body range step instant offset
    ⟨path, e⟩ :: walkFrom (path ++ [e]) body
  | .call f args => ⟨path, .call f args⟩ :: walkAll (path ++ [.call f args]) args
  | .number x => [⟨path, .number x⟩]
  | .text s => [⟨path, .text s⟩]
  | .vector s => [⟨path, .vector s⟩]
  | .matrix s range => [⟨path, .matrix s range⟩]

/-- The walks of several expressions, one after another. -/
def walkAll (path : List Expr) : List Expr → List Visit
  | [] => []
  | e :: rest => walkFrom path e ++ walkAll path rest

end

/-- Every expression of a query, from the front, with the expressions around it. -/
def walk (e : Expr) : List Visit := walkFrom [] e

/-! ## Selectors -/

/-- The selector of a selector or a range. -/
def selector? : Expr → Option Selector
  | .vector s => some s
  | .matrix s _ => some s
  | _ => none

/-- The selectors of a query, from the front, those of ranges included. -/
def selectors (e : Expr) : List Selector := e.walk.filterMap fun v => v.expr.selector?

mutual

/-- Visits every selector of a query from the front, those of ranges included, and puts what a visit
    returns in the place of the selector. A visit may have effects, such as counting or failing. -/
def visitSelectors {m : Type → Type} [Monad m] (visit : Selector → m Selector) : Expr → m Expr
  | .aggregate op g none body => do
    let body ← visitSelectors visit body
    return .aggregate op g none body
  | .aggregate op g (some param) body => do
    let param ← visitSelectors visit param
    let body ← visitSelectors visit body
    return .aggregate op g (some param) body
  | .negate body => do
    let body ← visitSelectors visit body
    return .negate body
  | .binary op modifier lhs rhs => do
    let lhs ← visitSelectors visit lhs
    let rhs ← visitSelectors visit rhs
    return .binary op modifier lhs rhs
  | .paren body => do
    let body ← visitSelectors visit body
    return .paren body
  | .subquery body range step instant offset => do
    let body ← visitSelectors visit body
    return .subquery body range step instant offset
  | .call f args => do
    let args ← visitAll visit args
    return .call f args
  | .number x => return .number x
  | .text s => return .text s
  | .vector s => do
    let s ← visit s
    return .vector s
  | .matrix s range => do
    let s ← visit s
    return .matrix s range

/-- Visits every selector of several expressions. -/
def visitAll {m : Type → Type} [Monad m] (visit : Selector → m Selector) :
    List Expr → m (List Expr)
  | [] => return []
  | e :: rest => do
    let e ← visitSelectors visit e
    let rest ← visitAll visit rest
    return e :: rest

end

/-- Changes every selector of a query, those of ranges included. -/
def mapSelectors (f : Selector → Selector) (e : Expr) : Expr :=
  Id.run (e.visitSelectors fun s => pure (f s))

/-! ## Kinds -/

/-- The name of the function that an expression calls. -/
def callName? : Expr → Option String
  | .call f _ => some f
  | _ => none

/-- What kind of expression it is; a call names its function. -/
def kind : Expr → String
  | .aggregate .. => "aggregate"
  | .negate _ => "unary"
  | .binary .. => "binary"
  | .paren _ => "paren"
  | .subquery .. => "subquery"
  | .number _ => "number"
  | .text _ => "string"
  | .vector _ => "vector"
  | .matrix .. => "matrix"
  | .call f _ => "call:" ++ f

end Expr

/-! ## Matchers of selectors -/

namespace Selector

/-- The name of the metric, given before the braces or by a matcher for equality. -/
def metricName? (s : Selector) : Option String :=
  match s.name with
  | some name => some name
  | none =>
    (s.matchers.find? fun m => m.name == Matcher.metricLabel && m.op == .equal).map (·.value)

/-- Every plain matcher, and the name of the metric as a matcher of its own. -/
def labelMatchers (s : Selector) : List Matcher :=
  match s.name with
  | some name =>
    if s.matchers.any fun m => m.name == Matcher.metricLabel then s.matchers
    else s.matchers ++ [⟨Matcher.metricLabel, .equal, name⟩]
  | none => s.matchers

/-- Gives every plain matcher of a label the required operator and value, or appends the required
    matcher if there is none. A regular expression that is none leaves the selector as it is. -/
def setMatcher (required : Matcher) (s : Selector) : Selector :=
  if !required.isSettable then s
  else if s.matchers.any fun m => m.name == required.name then
    { s with matchers := s.matchers.map fun m => if m.name == required.name then required else m }
  else { s with matchers := s.matchers ++ [required] }

end Selector

namespace Expr

/-- Sets a matcher on every selector. Without a selector there is nothing to refuse; with one, a
    regular expression that is none is refused. -/
def setMatcher? (required : Matcher) (e : Expr) : Option Expr :=
  if e.selectors.isEmpty || required.isSettable then
    some (e.mapSelectors (Selector.setMatcher required))
  else none

end Expr

end BoardLint
