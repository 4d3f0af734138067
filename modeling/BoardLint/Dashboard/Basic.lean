import BoardLint.Json.Printer

set_option autoImplicit false

/-! # Dashboards

A partial view of a dashboard: the parts that the rules look at have fields of their own, and every
other member of the document is carried along in `extra`. Panels can hold panels;
`Dashboard.allPanels` lists all of them, and `Dashboard.updatePanel?` changes the one at a position
of that list. -/

namespace BoardLint

/-! ## Datasources and targets -/

/-- A reference to a datasource: a name, or an object with an identifier and a kind. -/
inductive Datasource where
  | named (name : String)
  | ref (uid kind : Option String) (extra : Json.Members)
deriving Repr, Inhabited

/-- The name or identifier of a datasource. -/
def Datasource.name : Datasource → String
  | .named name => name
  | .ref uid _ _ => uid.getD ""

/-- A query of a panel. Its index is not part of a document: it is the position of the target in its
    panel where the panels of a dashboard are listed, and zero where a target is read. -/
structure Target where
  expr : String
  datasource : Option Datasource
  refId : Option String
  hide : Bool
  idx : Nat
  extra : Json.Members
deriving Repr, Inhabited

/-! ## Panels -/

/-- A panel, with the panels inside it. -/
structure Panel where
  id : Option Int
  title : String
  description : String
  kind : String
  datasource : Option Datasource
  targets : List Target
  panels : List Panel
  extra : Json.Members
deriving Repr, Inhabited

/-- A row of panels, as older dashboards have them. -/
structure Row where
  panels : List Panel
  extra : Json.Members
deriving Repr, Inhabited

namespace Panel

/-- The kinds of panels whose targets are query expressions. -/
def queryKinds : List String :=
  ["singlestat", "graph", "table", "stat", "state-timeline", "timeseries"]

/-- Whether the targets of the panel are query expressions. -/
def hasQueries (p : Panel) : Bool := queryKinds.contains p.kind

/-- The panel with the position of each of its targets as the index of the target. The panels inside
    it are left as they are. -/
def reindexed (p : Panel) : Panel :=
  { p with targets := p.targets.mapIdx fun i t => { t with idx := i } }

mutual

/-- A panel followed by the panels inside it, each followed by those inside it. They are copies
    whose targets are indexed. -/
def flatten : Panel → List Panel
  | ⟨id, title, description, kind, datasource, targets, panels, extra⟩ =>
    reindexed ⟨id, title, description, kind, datasource, targets, panels, extra⟩ ::
      flattenAll panels

/-- Several panels, each followed by those inside it. -/
def flattenAll : List Panel → List Panel
  | [] => []
  | p :: rest => flatten p ++ flattenAll rest

end

/-- The outcome of looking for a panel by its position: what became of it, or how many positions
    remain for the panels that follow. -/
inductive Search (α : Type) where
  | found (value : α)
  | passed (remaining : Nat)
deriving Repr

mutual

/-- Changes the panel at a position among a panel and those inside it. -/
def updateAt {α : Type} (f : Panel → Panel × α) : Panel → Nat → Search (Panel × α)
  | ⟨id, title, description, kind, datasource, targets, panels, extra⟩, 0 =>
    .found (f ⟨id, title, description, kind, datasource, targets, panels, extra⟩)
  | ⟨id, title, description, kind, datasource, targets, panels, extra⟩, n + 1 =>
    match updateIn f panels n with
    | .found (panels, a) =>
      .found (⟨id, title, description, kind, datasource, targets, panels, extra⟩, a)
    | .passed remaining => .passed remaining

/-- Changes the panel at a position among several panels and those inside them. -/
def updateIn {α : Type} (f : Panel → Panel × α) : List Panel → Nat → Search (List Panel × α)
  | [], n => .passed n
  | p :: rest, n =>
    match updateAt f p n with
    | .found (p, a) => .found (p :: rest, a)
    | .passed remaining =>
      match updateIn f rest remaining with
      | .found (rest, a) => .found (p :: rest, a)
      | .passed remaining => .passed remaining

end

end Panel

/-- Changes the panel at a position among those of several rows. -/
def Row.updateIn {α : Type} (f : Panel → Panel × α) :
    List Row → Nat → Panel.Search (List Row × α)
  | [], n => .passed n
  | row :: rest, n =>
    match Panel.updateIn f row.panels n with
    | .found (panels, a) => .found ({ row with panels := panels } :: rest, a)
    | .passed remaining =>
      match updateIn f rest remaining with
      | .found (rest, a) => .found (row :: rest, a)
      | .passed remaining => .passed remaining

/-! ## Templates -/

/-- A current value or an option of a template variable. -/
structure TemplateValue where
  text : Option Json
  value : Option Json
  extra : Json.Members
deriving Repr, Inhabited

/-- The chosen value as text. Of several values the first counts. -/
def TemplateValue.chosen (t : TemplateValue) : String :=
  let shown : Json → String
    | .str s => s
    | other => other.compact
  match t.value with
  | none => ""
  | some .null => ""
  | some (.arr []) => ""
  | some (.arr (first :: _)) => shown first
  | some other => shown other

/-- A template variable. -/
structure Template where
  name : String
  label : String
  kind : String
  query : Option Json
  datasource : Option Datasource
  multi : Bool
  allValue : Option String
  current : Option TemplateValue
  options : List TemplateValue
  refresh : Option Int
  extra : Json.Members
deriving Repr, Inhabited

namespace Template

/-- The text of the query, which may also stand inside an object. -/
def queryText (t : Template) : String :=
  match t.query with
  | some (.str s) => s
  | some (.obj members) =>
    match Json.Members.get? "query" members with
    | some (.str s) => s
    | _ => ""
  | _ => ""

/-- The current value, or the first option when there is none. -/
def chosen (t : Template) : String :=
  let current := (t.current.map TemplateValue.chosen).getD ""
  if current.isEmpty then (t.options.head?.map TemplateValue.chosen).getD "" else current

/-- The name of the datasource, empty when there is none. -/
def datasourceName (t : Template) : String := (t.datasource.map Datasource.name).getD ""

end Template

/-- The template variables of a dashboard. -/
structure Templating where
  list : List Template
  extra : Json.Members
deriving Repr, Inhabited

/-! ## Dashboards -/

/-- A dashboard. The unit is the directory it was loaded from, the source its file, and the envelope
    the resource that its document was wrapped in. -/
structure Dashboard where
  title : String
  editable : Option Bool
  templating : Templating
  rows : List Row
  panels : List Panel
  extra : Json.Members
  unit : String
  source : Option String
  envelope : Option Json.Members
deriving Repr, Inhabited

namespace Dashboard

/-- Whether the dashboard can be edited. -/
def isEditable (d : Dashboard) : Bool := d.editable.getD false

/-- The interval of the automatic refresh, empty when there is none. -/
def refreshInterval (d : Dashboard) : String :=
  ((Json.Members.get? "refresh" d.extra).bind Json.str?).getD ""

/-- An end of the time window, empty when there is none. -/
def timeBound (d : Dashboard) (key : String) : String :=
  (((Json.Members.get? "time" d.extra).bind (Json.get? key)).bind Json.str?).getD ""

/-- The template variables. -/
def templates (d : Dashboard) : List Template := d.templating.list

/-- The first template variable with a name. -/
def template? (d : Dashboard) (name : String) : Option Template :=
  d.templates.find? fun t => t.name == name

/-- The template variables that choose a datasource. -/
def datasourceTemplates (d : Dashboard) : List Template :=
  d.templates.filter fun t => t.kind == "datasource"

/-- Whether the first template variable that chooses a datasource chooses a Prometheus one. -/
def isPrometheus (d : Dashboard) : Bool :=
  match d.datasourceTemplates.head? with
  | some t => t.queryText == "prometheus"
  | none => false

/-- Copies of all panels: those of the rows first, each panel followed by those inside it. -/
def allPanels (d : Dashboard) : List Panel :=
  Panel.flattenAll (d.rows.flatMap (·.panels)) ++ Panel.flattenAll d.panels

/-- Changes the panel at a position of `allPanels`. -/
def updatePanel? {α : Type} (d : Dashboard) (i : Nat) (f : Panel → Panel × α) :
    Option (Dashboard × α) :=
  match Row.updateIn f d.rows i with
  | .found (rows, a) => some ({ d with rows := rows }, a)
  | .passed remaining =>
    match Panel.updateIn f d.panels remaining with
    | .found (panels, a) => some ({ d with panels := panels }, a)
    | .passed _ => none

end Dashboard

end BoardLint
