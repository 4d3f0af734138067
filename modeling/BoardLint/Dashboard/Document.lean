import BoardLint.Dashboard.Basic
import BoardLint.Json.Reader

set_option autoImplicit false

/-! # Dashboard documents

Reading and writing dashboards as JSON. A field with a value of the wrong type makes the document
unreadable; a missing field has its default, and a field with its default is not written. Members
without a field are kept, after the fields, in their order. A document with an `apiVersion` is a
resource whose `spec` is the dashboard. -/

namespace BoardLint

/-! ## Fields -/

namespace Json

/-- A signed number of 64 bits. -/
def int64? (value : Json) : Option Int :=
  value.int?.filter fun n => -(Nat.pow 2 63 : Int) ≤ n && n < (Nat.pow 2 63 : Int)

/-- The items of an array, if they are all readable. -/
def items? {α : Type} (item : Json → Option α) : Json → Option (List α)
  | .arr items => items.mapM item
  | _ => none

end Json

namespace Json.Members

/-- A member that has to be readable; a default when it is missing. -/
def defaulted? {α : Type} (key : String) (missing : α) (item : Json → Option α) (m : Members) :
    Option α :=
  match get? key m with
  | none => some missing
  | some value => item value

/-- A member that has to be readable unless it is missing or null. -/
def optional? {α : Type} (key : String) (item : Json → Option α) (m : Members) :
    Option (Option α) :=
  match get? key m with
  | none => some none
  | some .null => some none
  | some value => (item value).map some

/-- A text; empty when the member is missing. -/
def text? (key : String) (m : Members) : Option String := defaulted? key "" str? m

/-- A truth value; false when the member is missing. -/
def flag? (key : String) (m : Members) : Option Bool := defaulted? key false bool? m

/-- A list whose items are all readable; empty when the member is missing. -/
def list? {α : Type} (key : String) (item : Json → Option α) (m : Members) : Option (List α) :=
  defaulted? key [] (items? item) m

/-- A text that may be missing or null. -/
def optionalText? (key : String) (m : Members) : Option (Option String) := optional? key str? m

/-- A truth value that may be missing or null. -/
def optionalFlag? (key : String) (m : Members) : Option (Option Bool) := optional? key bool? m

/-- A signed number of 64 bits that may be missing or null. -/
def optionalInt? (key : String) (m : Members) : Option (Option Int) := optional? key int64? m

/-- A value that may be missing or null. -/
def optionalValue (key : String) (m : Members) : Option Json :=
  match get? key m with
  | some .null => none
  | value => value

/-- The members whose keys are not among the given ones. -/
def without (keys : List String) (m : Members) : Members :=
  m.filter fun (k, _) => !keys.contains k

/-- A member that is left out when its value is missing. -/
def ofOption (key : String) (value : Option Json) : Members :=
  match value with
  | some v => [(key, v)]
  | none => []

/-- A member that is left out when its value is the default. -/
def unlessDefault (key : String) (isDefault : Bool) (value : Json) : Members :=
  if isDefault then [] else [(key, value)]

/-- A member that is left out when its text is empty. -/
def ofText (key value : String) : Members := unlessDefault key value.isEmpty (.str value)

/-- A member that is left out when it is false. -/
def ofFlag (key : String) (value : Bool) : Members := unlessDefault key (!value) (.bool value)

/-- A member that is left out when its list is empty. -/
def ofList (key : String) (items : List Json) : Members :=
  unlessDefault key items.isEmpty (.arr items)

end Json.Members

open Json (Members)

/-! ## Datasources and targets -/

namespace Datasource

/-- The keys of the fields of a reference. -/
def keys : List String := ["uid", "type"]

/-- The datasource of a value. -/
def ofJson? : Json → Option Datasource
  | .str name => some (.named name)
  | .obj m => do
    let uid ← Members.optionalText? "uid" m
    let kind ← Members.optionalText? "type" m
    some (.ref uid kind (Members.without keys m))
  | _ => none

/-- A datasource as a value. -/
def toJson : Datasource → Json
  | .named name => .str name
  | .ref uid kind extra =>
    .obj (Members.ofOption "uid" (uid.map .str) ++ Members.ofOption "type" (kind.map .str) ++ extra)

end Datasource

namespace Target

/-- The keys of the fields of a target. -/
def keys : List String := ["expr", "datasource", "refId", "hide"]

/-- The target of a value. -/
def ofJson? : Json → Option Target
  | .obj m => do
    let expr ← Members.text? "expr" m
    let datasource ← Members.optional? "datasource" Datasource.ofJson? m
    let refId ← Members.optionalText? "refId" m
    let hide ← Members.flag? "hide" m
    some ⟨expr, datasource, refId, hide, 0, Members.without keys m⟩
  | _ => none

/-- A target as a value. -/
def toJson (t : Target) : Json :=
  .obj (Members.ofText "expr" t.expr ++
    Members.ofOption "datasource" (t.datasource.map Datasource.toJson) ++
    Members.ofOption "refId" (t.refId.map .str) ++ Members.ofFlag "hide" t.hide ++ t.extra)

end Target

/-! ## Panels -/

namespace Panel

/-- The keys of the fields of a panel. -/
def keys : List String :=
  ["id", "title", "description", "type", "datasource", "targets", "panels"]

/-- A panel from the members of its object and the panels inside it. -/
def ofMembers? (m : Members) (panels : List Panel) : Option Panel := do
  let id ← Members.optionalInt? "id" m
  let title ← Members.text? "title" m
  let description ← Members.text? "description" m
  let kind ← Members.text? "type" m
  let datasource ← Members.optional? "datasource" Datasource.ofJson? m
  let targets ← Members.list? "targets" Target.ofJson? m
  some ⟨id, title, description, kind, datasource, targets, panels, Members.without keys m⟩

mutual

/-- The panel of a value. -/
def ofJson? : Json → Option Panel
  | .obj m =>
    match panelsOf? m with
    | some panels => ofMembers? m panels
    | none => none
  | _ => none

/-- The panels under the key `panels`, none when it is missing. -/
def panelsOf? : List (String × Json) → Option (List Panel)
  | [] => some []
  | (k, v) :: rest => if k == "panels" then listOf? v else panelsOf? rest

/-- The panels of an array. -/
def listOf? : Json → Option (List Panel)
  | .arr items => itemsOf? items
  | _ => none

/-- The panels of the items of an array. -/
def itemsOf? : List Json → Option (List Panel)
  | [] => some []
  | v :: rest =>
    match ofJson? v, itemsOf? rest with
    | some p, some ps => some (p :: ps)
    | _, _ => none

end

mutual

/-- A panel as a value. -/
def toJson : Panel → Json
  | ⟨id, title, description, kind, datasource, targets, panels, extra⟩ =>
    .obj (Members.ofOption "id" (id.map Json.ofInt) ++ Members.ofText "title" title ++
      Members.ofText "description" description ++ Members.ofText "type" kind ++
      Members.ofOption "datasource" (datasource.map Datasource.toJson) ++
      Members.ofList "targets" (targets.map Target.toJson) ++
      Members.ofList "panels" (toJsons panels) ++ extra)

/-- Panels as values. -/
def toJsons : List Panel → List Json
  | [] => []
  | p :: rest => toJson p :: toJsons rest

end

end Panel

namespace Row

/-- The row of a value. -/
def ofJson? : Json → Option Row
  | .obj m => do
    let panels ← Members.list? "panels" Panel.ofJson? m
    some ⟨panels, Members.without ["panels"] m⟩
  | _ => none

/-- A row as a value. -/
def toJson (r : Row) : Json :=
  .obj (Members.ofList "panels" (r.panels.map Panel.toJson) ++ r.extra)

end Row

/-! ## Templates -/

namespace TemplateValue

/-- The value or option of a template variable. -/
def ofJson? : Json → Option TemplateValue
  | .obj m =>
    some ⟨Members.optionalValue "text" m, Members.optionalValue "value" m,
      Members.without ["text", "value"] m⟩
  | _ => none

/-- A value or option as a value. -/
def toJson (t : TemplateValue) : Json :=
  .obj (Members.ofOption "text" t.text ++ Members.ofOption "value" t.value ++ t.extra)

end TemplateValue

namespace Template

/-- The keys of the fields of a template variable. -/
def keys : List String :=
  ["name", "label", "type", "query", "datasource", "multi", "allValue", "current", "options",
    "refresh"]

/-- The template variable of a value. -/
def ofJson? : Json → Option Template
  | .obj m => do
    let name ← Members.text? "name" m
    let label ← Members.text? "label" m
    let kind ← Members.text? "type" m
    let datasource ← Members.optional? "datasource" Datasource.ofJson? m
    let multi ← Members.flag? "multi" m
    let allValue ← Members.optionalText? "allValue" m
    let current ← Members.optional? "current" TemplateValue.ofJson? m
    let options ← Members.list? "options" TemplateValue.ofJson? m
    let refresh ← Members.optionalInt? "refresh" m
    some ⟨name, label, kind, Members.optionalValue "query" m, datasource, multi, allValue, current,
      options, refresh, Members.without keys m⟩
  | _ => none

/-- A template variable as a value. -/
def toJson (t : Template) : Json :=
  .obj (Members.ofText "name" t.name ++ Members.ofText "label" t.label ++
    Members.ofText "type" t.kind ++ Members.ofOption "query" t.query ++
    Members.ofOption "datasource" (t.datasource.map Datasource.toJson) ++
    Members.ofFlag "multi" t.multi ++ Members.ofOption "allValue" (t.allValue.map .str) ++
    Members.ofOption "current" (t.current.map TemplateValue.toJson) ++
    Members.ofList "options" (t.options.map TemplateValue.toJson) ++
    Members.ofOption "refresh" (t.refresh.map Json.ofInt) ++ t.extra)

/-- The template variables of an array. -/
def listOfJson? : Json → Option (List Template) := Json.items? ofJson?

end Template

namespace Templating

/-- The template variables of a value. -/
def ofJson? : Json → Option Templating
  | .obj m => do
    let list ← Members.list? "list" Template.ofJson? m
    some ⟨list, Members.without ["list"] m⟩
  | _ => none

/-- The template variables as a value; the list is written even when it is empty. -/
def toJson (t : Templating) : Json :=
  .obj (("list", .arr (t.list.map Template.toJson)) :: t.extra)

/-- Whether there is nothing to write. -/
def isEmpty (t : Templating) : Bool := t.list.isEmpty && t.extra.isEmpty

end Templating

/-! ## Dashboards -/

namespace Dashboard

/-- Why a text is not a dashboard. -/
inductive ReadError where
  /-- The text is not JSON, or a field has a value of the wrong type. -/
  | malformed
  /-- The text is a JSON value other than an object. -/
  | notObject
  /-- The document is a resource without a dashboard in it. -/
  | noSpec
deriving DecidableEq, Repr

/-- The message of an error that concerns the shape of the document. -/
def ReadError.detail : ReadError → String
  | .malformed => "*"
  | .notObject => "top-level value is not an object"
  | .noSpec => "resource has no dashboard spec"

/-- The keys of the fields of a dashboard. -/
def keys : List String := ["title", "editable", "templating", "rows", "panels"]

/-- The template variables of a dashboard; none when the member is missing. -/
def templatingOf? (m : Members) : Option Templating :=
  Members.defaulted? "templating" ⟨[], []⟩ Templating.ofJson? m

/-- The dashboard of an object, outside of any resource. -/
def ofMembers? (m : Members) : Option Dashboard := do
  let title ← Members.text? "title" m
  let editable ← Members.optionalFlag? "editable" m
  let templating ← templatingOf? m
  let rows ← Members.list? "rows" Row.ofJson? m
  let panels ← Members.list? "panels" Panel.ofJson? m
  some ⟨title, editable, templating, rows, panels, Members.without keys m, "", none, none⟩

/-- A dashboard as an object, outside of any resource. An empty title is written too. -/
def toMembers (d : Dashboard) : Members :=
  ("title", .str d.title) :: Members.ofOption "editable" (d.editable.map .bool) ++
    Members.unlessDefault "templating" d.templating.isEmpty d.templating.toJson ++
    Members.ofList "rows" (d.rows.map Row.toJson) ++
    Members.ofList "panels" (d.panels.map Panel.toJson) ++ d.extra

/-- Takes a member out of an object. The last member moves into its place. -/
def extract (key : String) (m : Members) : Members :=
  match m.span fun (k, _) => k != key with
  | (_, []) => m
  | (front, [_]) => front
  | (front, _ :: rest) =>
    match rest.getLast? with
    | some last => front ++ last :: rest.dropLast
    | none => front

/-- The dashboard of a value. A resource keeps what is not its `spec` as the envelope. -/
def ofJson : Json → Except ReadError Dashboard
  | .obj m =>
    if (Members.get? "apiVersion" m).isSome then
      match Members.get? "spec" m with
      | some (.obj spec) =>
        match ofMembers? spec with
        | some d => .ok { d with envelope := some (extract "spec" m) }
        | none => .error .malformed
      | _ => .error .noSpec
    else
      match ofMembers? m with
      | some d => .ok d
      | none => .error .malformed
  | _ => .error .notObject

/-- A dashboard as a value, in its envelope if it has one. -/
def toJson (d : Dashboard) : Json :=
  match d.envelope with
  | some envelope => .obj (Members.set "spec" (.obj d.toMembers) envelope)
  | none => .obj d.toMembers

/-- The dashboard of a text. -/
def ofText (text : String) : Except ReadError Dashboard :=
  match Json.parse? text with
  | some value => ofJson value
  | none => .error .malformed

/-- The text of a dashboard. -/
def toText (d : Dashboard) : String := d.toJson.pretty

end Dashboard

end BoardLint
