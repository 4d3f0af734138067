import BoardLint.Query.Token
import BoardLint.Query.Typing

set_option autoImplicit false

/-! # Reading queries

The expression of a list of tokens, by precedence: a sign in front of an operand binds like a
product, powers bind tighter and group to the right. Every function takes fuel that a call in it
lowers; calls that consume no token are at most four deep. -/

namespace BoardLint.Query

/-! ## Labels and modifiers -/

/-- The label name that a token can stand for. -/
def Token.label? : Token → Option String
  | .ident word => some word
  | .wordOp _ word => some word
  | .aggregator _ word => some word
  | .keyword _ word => some word
  | _ => none

/-- The metric name that a token can stand for. -/
def Token.metric? : Token → Option String
  | .ident word => some word
  | .metricIdent word => some word
  | .aggregator _ word => some word
  | .wordOp op word => if op == .atan2 then none else some word
  | .keyword k word =>
    if [Keyword.bool, .on, .ignoring, .groupLeft, .groupRight].contains k then none else some word
  | _ => none

/-- Labels after the first of a list, up to the closing parenthesis; a comma may precede it. -/
def moreLabels? : List Token → Option (List String × List Token)
  | .closeParen :: rest => some ([], rest)
  | .comma :: .closeParen :: rest => some ([], rest)
  | .comma :: token :: rest =>
    match token.label?, moreLabels? rest with
    | some label, some (labels, rest) => some (label :: labels, rest)
    | _, _ => none
  | _ => none

/-- A list of labels in parentheses. -/
def labels? : List Token → Option (List String × List Token)
  | .openParen :: .closeParen :: rest => some ([], rest)
  | .openParen :: token :: rest =>
    match token.label?, moreLabels? rest with
    | some label, some (labels, rest) => some (label :: labels, rest)
    | _, _ => none
  | _ => none

/-- The grouping of an aggregation. -/
def grouping? : List Token → Option (Grouping × List Token)
  | .keyword .by _ :: rest => (labels? rest).map fun (labels, rest) => (.by labels, rest)
  | .keyword .without _ :: rest => (labels? rest).map fun (labels, rest) => (.without labels, rest)
  | _ => none

/-- The labels that a grouping takes over; the list may be missing. -/
def takenLabels? : List Token → Option (List String × List Token)
  | .openParen :: rest => labels? (.openParen :: rest)
  | rest => some ([], rest)

/-- The grouping of an operator after its matching. -/
def grouped? : List Token → Option (Option Grouped × List Token)
  | .keyword .groupLeft _ :: rest =>
    (takenLabels? rest).map fun (labels, rest) => (some (.left labels), rest)
  | .keyword .groupRight _ :: rest =>
    (takenLabels? rest).map fun (labels, rest) => (some (.right labels), rest)
  | rest => some (none, rest)

/-- The matching of an operator, with its grouping. -/
def matching? (returnBool : Bool) : List Token → Option (BinaryModifier × List Token)
  | .keyword .on _ :: rest => do
    let (labels, rest) ← labels? rest
    let (grouped, rest) ← grouped? rest
    some (⟨returnBool, some (.on labels), grouped⟩, rest)
  | .keyword .ignoring _ :: rest => do
    let (labels, rest) ← labels? rest
    let (grouped, rest) ← grouped? rest
    some (⟨returnBool, some (.ignoring labels), grouped⟩, rest)
  | rest => some (⟨returnBool, none, none⟩, rest)

/-- The modifiers of an operator. -/
def modifier? : List Token → Option (BinaryModifier × List Token)
  | .keyword .bool _ :: rest => matching? true rest
  | rest => matching? false rest

/-! ## Selectors -/

/-- The operator of a matcher. -/
def matchOp? : Token → Option MatchOp
  | .assign => some .equal
  | .sign .ne => some .notEqual
  | .regexMatch => some .regex
  | .regexMismatch => some .notRegex
  | _ => none

/-- A matcher, whose regular expression has to be one. -/
def matcher? : List Token → Option (Matcher × List Token)
  | .ident name :: op :: .text value :: rest =>
    match matchOp? op with
    | some op =>
      let m : Matcher := ⟨name, op, value⟩
      if m.isReadable then some (m, rest) else none
    | none => none
  | _ => none

/-- Adds a matcher: to the last group if there is one. -/
def addMatcher (m : Matcher) (matchers : List Matcher) (groups : List (List Matcher)) :
    List Matcher × List (List Matcher) :=
  match groups.getLast? with
  | none => (matchers ++ [m], groups)
  | some last => (matchers, groups.dropLast ++ [last ++ [m]])

/-- Begins a group with a matcher; the matchers before the first group become one themselves. -/
def addGroup (m : Matcher) (matchers : List Matcher) (groups : List (List Matcher)) :
    List Matcher × List (List Matcher) :=
  if matchers.isEmpty then ([], groups ++ [[m]]) else ([], groups ++ [matchers, [m]])

/-- Matchers after the first, up to the closing brace; a comma may precede it. -/
def moreMatchers? : Nat → List Matcher → List (List Matcher) → List Token →
    Option ((List Matcher × List (List Matcher)) × List Token)
  | 0, _, _, _ => none
  | fuel + 1, matchers, groups, tokens =>
    match tokens with
    | .closeBrace :: rest => some ((matchers, groups), rest)
    | .comma :: .closeBrace :: rest => some ((matchers, groups), rest)
    | .comma :: rest =>
      match matcher? rest with
      | some (m, rest) =>
        let (matchers, groups) := addMatcher m matchers groups
        moreMatchers? fuel matchers groups rest
      | none => none
    | .wordOp .or _ :: rest =>
      match matcher? rest with
      | some (m, rest) =>
        let (matchers, groups) := addGroup m matchers groups
        moreMatchers? fuel matchers groups rest
      | none => none
    | _ => none

/-- The matchers of a selector after the opening brace. -/
def matchers? : List Token → Option ((List Matcher × List (List Matcher)) × List Token)
  | .closeBrace :: rest => some (([], []), rest)
  | tokens => do
    let (m, rest) ← matcher? tokens
    moreMatchers? (rest.length + 1) [m] [] rest

/-- A selector whose metric name was read, and the rest of the tokens. -/
def selector? (name : Option String) (tokens : List Token) : Option (Expr × List Token) :=
  match tokens with
  | .openBrace :: rest => do
    let ((matchers, groups), rest) ← matchers? rest
    let e ← Expr.ofSelector? ⟨name, matchers, groups, none, none⟩
    some (e, rest)
  | _ => (Expr.ofSelector? ⟨name, [], [], none, none⟩).map fun e => (e, tokens)

/-! ## Times -/

/-- The instant of a number of seconds, rounded to milliseconds and cut to whole seconds; an
    infinite or undefined number is none, nor is the greatest one. Milliseconds have 64 bits. -/
def instantOf? (x : Binary64) : Option Instant :=
  match x with
  | .finite negative mantissa exponent =>
    if mantissa == Nat.pow 2 53 - 1 && exponent == 971 then none
    else if negative then some (.seconds 0)
    else
      let millis := match Binary64.mul (.finite false mantissa exponent) (Binary64.ofNat 1000) with
        | .finite _ m e => min (Binary64.roundAbs m e) (Nat.pow 2 64 - 1)
        | _ => Nat.pow 2 64 - 1
      some (.seconds (millis / 1000))
  | _ => none

/-- The instant after its sign. -/
def instant? : List Token → Option (Instant × List Token)
  | .number x :: rest => (instantOf? x).map fun i => (i, rest)
  | .sign .add :: .number x :: rest => (instantOf? x).map fun i => (i, rest)
  | .sign .sub :: .number x :: rest => (instantOf? x.neg).map fun i => (i, rest)
  | .keyword .start _ :: .openParen :: .closeParen :: rest => some (.start, rest)
  | .keyword .finish _ :: .openParen :: .closeParen :: rest => some (.finish, rest)
  | _ => none

/-- An offset after its word. -/
def offset? : List Token → Option (Offset × List Token)
  | .duration d :: rest => some (⟨false, d⟩, rest)
  | .sign .add :: .duration d :: rest => some (⟨false, d⟩, rest)
  | .sign .sub :: .duration d :: rest => some (⟨true, d⟩, rest)
  | _ => none

/-- Ranges, subqueries, offsets and instants after an operand. -/
def suffixes? : Nat → Expr → List Token → Option (Expr × List Token)
  | 0, _, _ => none
  | fuel + 1, e, tokens =>
    match tokens with
    | .openBracket :: .duration d :: .closeBracket :: rest =>
      (e.range? d).bind fun e => suffixes? fuel e rest
    | .openBracket :: .duration d :: .colon :: .closeBracket :: rest =>
      (e.subquery? d none).bind fun e => suffixes? fuel e rest
    | .openBracket :: .duration d :: .colon :: .duration step :: .closeBracket :: rest =>
      (e.subquery? d (some step)).bind fun e => suffixes? fuel e rest
    | .openBracket :: _ => none
    | .keyword .offset _ :: rest =>
      match offset? rest with
      | some (o, rest) => (e.withOffset? o).bind fun e => suffixes? fuel e rest
      | none => none
    | .at :: rest =>
      match instant? rest with
      | some (i, rest) => (e.withInstant? i).bind fun e => suffixes? fuel e rest
      | none => none
    | _ => some (e, tokens)

/-! ## Expressions -/

/-- The operator that a token is between two expressions. -/
def Token.binary? : Token → Option BinaryOp
  | .sign op => some op
  | .wordOp op _ => some op
  | _ => none

/-- The least precedence of the operators to the right of an operator: its own for a power, the next
    for the others. -/
def rightLevel (op : BinaryOp) : Nat :=
  if op == .pow then op.precedence else op.precedence + 1

mutual

/-- An expression of operators that bind at least as tightly as `level`. -/
def expr? : Nat → Nat → List Token → Option (Expr × List Token)
  | 0, _, _ => none
  | fuel + 1, level, tokens => do
    let (lhs, rest) ← operand? fuel tokens
    operators? fuel level lhs rest

/-- The operators after an expression. -/
def operators? : Nat → Nat → Expr → List Token → Option (Expr × List Token)
  | 0, _, _, _ => none
  | fuel + 1, level, lhs, tokens =>
    match tokens with
    | [] => some (lhs, [])
    | token :: rest =>
      match token.binary? with
      | none => some (lhs, tokens)
      | some op =>
        if op.precedence < level then some (lhs, tokens)
        else do
          let (modifier, rest) ← modifier? rest
          let (rhs, rest) ← expr? fuel (rightLevel op) rest
          let e ← Expr.binary? op modifier lhs rhs
          operators? fuel level e rest

/-- An operand with the signs in front of it. A plus sign leaves no trace. -/
def operand? : Nat → List Token → Option (Expr × List Token)
  | 0, _ => none
  | fuel + 1, tokens =>
    match tokens with
    | .sign .add :: rest => expr? fuel BinaryOp.pow.precedence rest
    | .sign .sub :: rest => do
      let (body, rest) ← expr? fuel BinaryOp.pow.precedence rest
      let e ← Expr.negate? body
      some (e, rest)
    | _ => do
      let (e, rest) ← primary? fuel tokens
      suffixes? (rest.length + 1) e rest

/-- A literal, a selector, a call, an aggregation or an expression in parentheses. -/
def primary? : Nat → List Token → Option (Expr × List Token)
  | 0, _ => none
  | fuel + 1, tokens =>
    match tokens with
    | .number x :: rest => some (.number x, rest)
    | .text s :: rest => some (.text s, rest)
    | .openParen :: rest => do
      let (body, rest) ← expr? fuel 0 rest
      match rest with
      | .closeParen :: rest => some (.paren body, rest)
      | _ => none
    | .openBrace :: rest => selector? none (.openBrace :: rest)
    | .ident name :: .openParen :: rest => do
      let (args, rest) ← arguments? fuel rest
      let e ← Expr.call? name args
      some (e, rest)
    | .aggregator op _ :: .openParen :: rest => do
      let (args, rest) ← arguments? fuel rest
      match rest with
      | .keyword .by _ :: _ => do
        let (g, rest) ← grouping? rest
        let e ← Expr.aggregate? op (some g) args
        some (e, rest)
      | .keyword .without _ :: _ => do
        let (g, rest) ← grouping? rest
        let e ← Expr.aggregate? op (some g) args
        some (e, rest)
      | _ => do
        let e ← Expr.aggregate? op none args
        some (e, rest)
    | .aggregator op _ :: .keyword .by w :: rest => do
      let (g, rest) ← grouping? (.keyword .by w :: rest)
      groupedArguments? fuel op g rest
    | .aggregator op _ :: .keyword .without w :: rest => do
      let (g, rest) ← grouping? (.keyword .without w :: rest)
      groupedArguments? fuel op g rest
    | token :: rest => do
      let name ← token.metric?
      selector? (some name) rest
    | [] => none

/-- The arguments of an aggregation after its grouping. -/
def groupedArguments? : Nat → AggregateOp → Grouping → List Token → Option (Expr × List Token)
  | 0, _, _, _ => none
  | fuel + 1, op, g, tokens =>
    match tokens with
    | .openParen :: rest => do
      let (args, rest) ← arguments? fuel rest
      let e ← Expr.aggregate? op (some g) args
      some (e, rest)
    | _ => none

/-- Arguments after the opening parenthesis. -/
def arguments? : Nat → List Token → Option (List Expr × List Token)
  | 0, _ => none
  | fuel + 1, tokens =>
    match tokens with
    | .closeParen :: rest => some ([], rest)
    | _ => do
      let (arg, rest) ← expr? fuel 0 tokens
      let (args, rest) ← moreArguments? fuel rest
      some (arg :: args, rest)

/-- Arguments after the first, each after a comma. -/
def moreArguments? : Nat → List Token → Option (List Expr × List Token)
  | 0, _ => none
  | fuel + 1, tokens =>
    match tokens with
    | .closeParen :: rest => some ([], rest)
    | .comma :: rest => do
      let (arg, rest) ← expr? fuel 0 rest
      let (args, rest) ← moreArguments? fuel rest
      some (arg :: args, rest)
    | _ => none

end

/-- The expression of a list of tokens, if they make exactly one. -/
def ofTokens? (tokens : List Token) : Option Expr :=
  match expr? (6 * (tokens.length + 1)) 0 tokens with
  | some (e, []) => some e
  | _ => none

/-- The expression of a query. -/
def parse? (text : String) : Option Expr := do
  ofTokens? (← tokens? text.toList)

end BoardLint.Query
