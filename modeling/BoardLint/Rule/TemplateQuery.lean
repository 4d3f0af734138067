import BoardLint.Rule.QueryShape

set_option autoImplicit false

/-! # Rules on the queries of template variables

A template variable takes its values from a function such as `label_values(up, job)`, whose argument
is a query. The variable is read again when the time window changes, and some query uses it. -/

namespace BoardLint.Rule

/-! ## Embedded queries -/

/-- The text between the parentheses after the name of a function, with blanks around it allowed. -/
def argument? (function : String) (text : List Char) : Option (List Char) := do
  let inner ← Text.after? (function.toList ++ ['(']) (text.dropWhile Text.isBlank)
  Text.before? [')'] (Text.trimEnd inner)

/-- The parts of a text before and after its last comma. -/
def lastComma? (text : List Char) : Option (List Char × List Char) :=
  let last := (text.reverse.takeWhile (· != ',')).reverse
  if last.length < text.length then some (text.take (text.length - last.length - 1), last) else none

/-- A query without the blanks around it, none when nothing else is left. -/
def nonBlank (query : List Char) : Option (List Char) :=
  let query := Text.trim query
  if query.isEmpty then none else some query

/-- The query in the argument of `label_values`: all before the last comma. An argument without
    commas and parentheses is a label. -/
def labelValues? (argument : List Char) : Option (Option (List Char)) :=
  if argument.all fun c => c != ',' && c != '(' && c != ')' then some none
  else
    match lastComma? argument with
    | some (query, label) =>
      if query.isEmpty || label.isEmpty then none else some (nonBlank query)
    | none => none

/-- The query in the text of a template variable. There is none inside when the function has no
    query, and none at all when the text is no such function. -/
def embeddedQuery? (text : List Char) : Option (Option (List Char)) :=
  match argument? "label_values" text with
  | some argument => labelValues? argument
  | none =>
    match argument? "metrics" text with
    | some argument => if argument.isEmpty then none else some (nonBlank argument)
    | none =>
      match argument? "label_names" text with
      | some argument => some (nonBlank argument)
      | none =>
        match argument? "query_result" text with
        | some argument => if argument.isEmpty then none else some (nonBlank argument)
        | none => none

/-- What is wrong with the query of a template variable. -/
def templateQueryProblem? (d : Dashboard) (t : Template) : Option String :=
  match embeddedQuery? t.queryText.toList with
  | none => some ("invalid 'query': " ++ t.queryText)
  | some none => none
  | some (some query) =>
    let query := String.ofList query
    match ExpandedQuery.parse query d.templates with
    | .ok _ => none
    | .error e =>
      some ("invalid templated label '" ++ t.queryText ++ "': " ++ invalidQuery query e.message)

/-- A template variable of a Prometheus dashboard has a valid query. -/
def templateQuery : Rule :=
  new "template-label-promql-rule"
    "Checks that the dashboard templated labels have proper PromQL expressions."
    (.template fun d t =>
      if d.isPrometheus && t.kind == "query" then Diagnostic.ofProblem (templateQueryProblem? d t)
      else [])

/-! ## Reloading -/

/-- The refresh of a template variable that is read again when the time window changes. -/
def onTimeChange : Int := 2

/-- A template variable is read again when the time window changes. -/
def reloadOnTimeChange : Rule :=
  { new "template-on-time-change-reload-rule"
      "Checks that the dashboard template variables are configured to reload on time change."
      (.template fun _ t =>
        let refresh := t.refresh.getD 0
        if t.kind != "query" || refresh == onTimeChange then []
        else
          [(Diagnostic.error ("should be set to be refreshed 'On Time Range Change (value 2)', " ++
              "is currently '" ++ toString refresh ++ "'")).withFix
            (.template fun t => { t with refresh := some onTimeChange })]) with
    fixable := true }

/-! ## Use -/

/-- Whether a word begins or ends between two characters; there is none beyond a text's ends. -/
def isBoundary (before after : Option Char) : Bool :=
  before.any Text.isWord != after.any Text.isWord

/-- Whether the rest of a reference in braces closes it: a brace, or a format and a brace. -/
def closesBraces : List Char → Bool
  | '\x7d' :: _ => true
  | ':' :: c :: rest => c != '\x7d' && rest.contains '\x7d'
  | _ => false

/-- Whether a text begins with a reference to a name. -/
def beginsReference (name text : List Char) : Bool :=
  let plain := (Text.after? ('$' :: name) text).any fun rest =>
    isBoundary (('$' :: name).getLast?) rest.head?
  let braced := (Text.after? ('$' :: '\x7b' :: name) text).any closesBraces
  let bracketed := (Text.after? ('[' :: '[' :: name ++ [']', ']']) text).isSome
  plain || braced || bracketed

/-- Whether a text refers to a name anywhere. -/
def refersTo (name : List Char) : List Char → Bool
  | [] => false
  | c :: text => beginsReference name (c :: text) || refersTo name text

/-- The regular expression for references to a name: `$name`, the name in braces with or without a
    format, and `[[name]]`. -/
def referencePattern (name : List Char) : List Char :=
  let name := name.flatMap fun c => if Regex.isMeta c then ['\\', c] else [c]
  "\\$(".toList ++ name ++ ")\\b|\\$\\\x7b(".toList ++ name ++
    "(:[^\x7d]+)?)\\\x7d|\\[\\[(".toList ++ name ++ ")\\]\\]".toList

/-- Whether references to a name can be searched for. With a name that is too long the regular
    expression is refused. -/
def isSearchable (name : List Char) : Bool := (Regex.compile? (referencePattern name)).isSome

/-- Whether a template variable is used by a target or by another variable. -/
def isUsed (d : Dashboard) (t : Template) : Bool :=
  let uses (text : String) : Bool := refersTo t.name.toList text.toList
  (d.allPanels.any fun p => p.targets.any fun target => uses target.expr) ||
    d.templates.any fun other => other.name != t.name && uses other.queryText

/-- A template variable with a query is used. Nothing is reported of one whose references cannot be
    searched for. -/
def templateUsed : Rule :=
  new "template-unused-rule" "Checks that each query template is used in queries."
    (.template fun d t =>
      if t.kind != "query" || !isSearchable t.name.toList || isUsed d t then []
      else [.error "is not used in any panel."])

end BoardLint.Rule
