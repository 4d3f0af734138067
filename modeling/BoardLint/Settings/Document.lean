import BoardLint.Json.Reader
import BoardLint.Settings.Basic
import BoardLint.Settings.Source
import BoardLint.Yaml.Expansion

set_option autoImplicit false

/-! # Settings as documents

Reading settings and overrides from JSON and YAML, and writing them as JSON. Fields that are missing
have their defaults. The overrides of a project stand beside the sections of its settings. In a YAML
document they are read as values, so that a number is no text there, while all else is read as it is
written. -/

namespace BoardLint

variable {α β : Type}

/-! ## Overrides -/

/-- The position of a target as JSON, in the form in which it was given. -/
def TargetIndex.toJson : TargetIndex → Json
  | .index n => Json.ofNat n.toNat
  | .text s => .str s

namespace Occurrence

/-- The names of the fields. -/
def fieldNames : List String := ["reason", "dashboard", "panel", "targetIdx", "template"]

/-- What is read of an occurrence. -/
def shape : Shape := .fields (fieldNames.map fun name => (name, .whole))

/-- Reads an occurrence. -/
def read? (s : Source α) (v : α) : Option Occurrence := do
  let fields ← s.fields? fieldNames v
  let text (name : String) := Source.field? fields name (s.optional? s.text?) none
  some ⟨← text "reason", ← text "dashboard", ← text "panel",
    ← Source.field? fields "targetIdx" (s.optional? s.target?) none, ← text "template"⟩

/-- Writes an occurrence, without the fields that are not set. -/
def toJson (o : Occurrence) : Json :=
  let text (name : String) (value : Option String) : Json.Members :=
    (value.map fun s => (name, Json.str s)).toList
  .obj (text "reason" o.reason ++ text "dashboard" o.dashboard ++ text "panel" o.panel ++
    (o.target.map fun t => ("targetIdx", t.toJson)).toList ++ text "template" o.template)

end Occurrence

namespace Occurrences

/-- What is read of occurrences. -/
def shape : Shape := .fields [("reason", .leaf), ("entries", .list Occurrence.shape)]

/-- Reads occurrences. -/
def read? (s : Source α) (v : α) : Option Occurrences := do
  let fields ← s.fields? ["reason", "entries"] v
  some ⟨← Source.field? fields "reason" (s.optional? s.text?) none,
    ← Source.field? fields "entries" (s.listOf? (Occurrence.read? s)) []⟩

/-- Writes occurrences, without a reason that is not set and without an empty list. -/
def toJson (o : Occurrences) : Json :=
  .obj ((o.reason.map fun s => ("reason", Json.str s)).toList ++
    if o.entries.isEmpty then [] else [("entries", .arr (o.entries.map Occurrence.toJson))])

end Occurrences

namespace Overrides

/-- Reads the overrides of a map by rule. The last of several for one rule counts. -/
def ofMembers? (s : Source α) (v : α) : Option Overrides := do
  let members ← s.members? v
  let entries ← members.mapM fun (rule, v) =>
    (s.optional? (Occurrences.read? s) v).map fun o => (rule, o)
  some (KeyMap.ofList entries)

/-- Reads overrides by rule, where nothing stands for none. -/
def read? (s : Source α) (v : α) : Option Overrides := do
  some ((← s.optional? (ofMembers? s) v).getD .empty)

/-- Writes overrides by rule. -/
def toJson (o : Overrides) : Json :=
  .obj (o.entries.map fun (rule, occurrences) =>
    (rule, (occurrences.map Occurrences.toJson).getD .null))

end Overrides

namespace OverrideFile

/-- The names of the fields. -/
def fieldNames : List String := ["exclusions", "warnings"]

/-- What is read of a file. -/
def shape : Shape := .fields (fieldNames.map fun name => (name, .map Occurrences.shape))

/-- Reads the fields of a file. -/
def ofFields? (s : Source α) (fields : List (String × α)) : Option OverrideFile := do
  some ⟨← Source.field? fields "exclusions" (Overrides.read? s) .empty,
    ← Source.field? fields "warnings" (Overrides.read? s) .empty⟩

/-- Reads a file. -/
def read? (s : Source α) (v : α) : Option OverrideFile := do
  ofFields? s (← s.fields? fieldNames v)

/-- The file of a JSON value. -/
def ofJson? (v : Json) : Option OverrideFile := read? Source.json v

/-- The file of a YAML text. A text without a document has no overrides. -/
def ofYaml? (text : String) : Option OverrideFile :=
  if (Text.trim text.toList).isEmpty then some .empty
  else do
    match ← Yaml.parse? text with
    | none => read? Source.yaml .nothing
    | some d => read? Source.yaml (← d.read? shape)

/-- The members of a file as JSON, without empty maps. -/
def members (file : OverrideFile) : Json.Members :=
  (if file.exclusions.isEmpty then [] else [("exclusions", Overrides.toJson file.exclusions)]) ++
    if file.warnings.isEmpty then [] else [("warnings", Overrides.toJson file.warnings)]

/-- A file as JSON. -/
def toJson (file : OverrideFile) : Json := .obj file.members

end OverrideFile

/-! ## Sections -/

namespace EngineSettings

/-- What is read of the section. -/
def shape : Shape := .fields [("parallel", .leaf), ("jobs", .leaf)]

/-- Reads the section. -/
def read? (s : Source α) (v : α) : Option EngineSettings := do
  let fields ← s.fields? ["parallel", "jobs"] v
  some ⟨← Source.field? fields "parallel" s.flag? false, ← Source.field? fields "jobs" s.number? 0⟩

/-- The section as JSON. -/
def toJson (e : EngineSettings) : Json :=
  .obj [("parallel", .bool e.parallel), ("jobs", Json.ofNat e.jobs.toNat)]

end EngineSettings

namespace OutputSettings

/-- What is read of the section. -/
def shape : Shape := .fields [("format", .leaf), ("color", .leaf), ("verbose", .leaf)]

/-- Reads the section. -/
def read? (s : Source α) (v : α) : Option OutputSettings := do
  let fields ← s.fields? ["format", "color", "verbose"] v
  some ⟨
    ← Source.field? fields "format" (fun v => (s.choice? v).bind ReportForm.ofName?) .text,
    ← Source.field? fields "color" (fun v => (s.choice? v).bind ColorMode.ofName?) .auto,
    ← Source.field? fields "verbose" s.flag? false⟩

/-- The section as JSON. -/
def toJson (o : OutputSettings) : Json :=
  .obj [("format", .str o.format.name), ("color", .str o.color.name), ("verbose", .bool o.verbose)]

end OutputSettings

namespace FileSettings

/-- What is read of the section. -/
def shape : Shape := .fields [("include", .list .leaf), ("exclude", .list .leaf)]

/-- Reads the section. -/
def read? (s : Source α) (v : α) : Option FileSettings := do
  let fields ← s.fields? ["include", "exclude"] v
  some ⟨← Source.field? fields "include" (s.listOf? s.text?) initial.included,
    ← Source.field? fields "exclude" (s.listOf? s.text?) initial.excluded⟩

/-- The section as JSON. -/
def toJson (f : FileSettings) : Json :=
  .obj [("include", Json.ofStrings f.included), ("exclude", Json.ofStrings f.excluded)]

end FileSettings

namespace RuleSettings

/-- What is read of a required matcher. -/
def matcherShape : Shape := .fields [("name", .leaf), ("type", .leaf), ("value", .leaf)]

/-- What is read of the section. -/
def shape : Shape := .fields [
  ("disabled", .list .leaf), ("enabled", .list .leaf), ("required_matchers", .list matcherShape),
  ("required_variables", .list .leaf), ("preview", .leaf)]

/-- Reads a required matcher, all of whose fields have to be there. -/
def readMatcher? (s : Source α) (v : α) : Option Matcher := do
  let fields ← s.fields? ["name", "type", "value"] v
  some ⟨← Source.required? fields "name" s.text?,
    ← Source.required? fields "type" (fun v => (s.text? v).bind MatchOp.ofText?),
    ← Source.required? fields "value" s.text?⟩

/-- Reads the section. -/
def read? (s : Source α) (v : α) : Option RuleSettings := do
  let fields ← s.fields?
    ["disabled", "enabled", "required_matchers", "required_variables", "preview"] v
  let texts (name : String) := Source.field? fields name (s.listOf? s.text?) []
  some ⟨← texts "disabled", ← texts "enabled",
    ← Source.field? fields "required_matchers" (s.listOf? (readMatcher? s)) [],
    ← texts "required_variables", ← Source.field? fields "preview" s.flag? false⟩

/-- A required matcher as JSON. -/
def matcherJson (m : Matcher) : Json :=
  .obj [("name", .str m.name), ("type", .str m.op.text), ("value", .str m.value)]

/-- The section as JSON. -/
def toJson (r : RuleSettings) : Json :=
  .obj [("disabled", Json.ofStrings r.disabled), ("enabled", Json.ofStrings r.enabled),
    ("required_matchers", .arr (r.requiredMatchers.map matcherJson)),
    ("required_variables", Json.ofStrings r.requiredVariables), ("preview", .bool r.preview)]

end RuleSettings

/-! ## Settings -/

namespace Settings

/-- The names of the sections. -/
def sectionNames : List String := ["engine", "output", "files", "rules"]

/-- What is read of settings: the fields of the sections, and all that stands beside them. -/
def shape : Shape := .record [
  ("engine", EngineSettings.shape), ("output", OutputSettings.shape), ("files", FileSettings.shape),
  ("rules", RuleSettings.shape)] .whole

/-- Reads settings. The members that are no section are read as values of the second source, where
    the overrides are. -/
def read? (s : Source α) (other : Source β) (value? : α → Option β) (v : α) : Option Settings := do
  let members ← s.members? v
  let fields ← Source.select? sectionNames members
  let rest ← (members.filter fun (k, _) => !sectionNames.contains k).mapM fun (k, v) =>
    (value? v).map fun v => (k, v)
  some ⟨← Source.field? fields "engine" (EngineSettings.read? s) .initial,
    ← Source.field? fields "output" (OutputSettings.read? s) .initial,
    ← Source.field? fields "files" (FileSettings.read? s) .initial,
    ← Source.field? fields "rules" (RuleSettings.read? s) .initial,
    ← OverrideFile.ofFields? other (← Source.select? OverrideFile.fieldNames rest)⟩

/-- The settings of a JSON value. -/
def ofJson? (v : Json) : Option Settings := read? Source.json Source.json some v

/-- The settings of a YAML text. A text without a document has the defaults. -/
def ofYaml? (text : String) : Option Settings := do
  let node ← match ← Yaml.parse? text with
    | none => some .nothing
    | some d => d.read? shape
  read? Source.yaml Source.yamlValue Yaml.Value.ofNode? node

/-- The settings as JSON. -/
def toJson (s : Settings) : Json :=
  .obj ([("engine", s.engine.toJson), ("output", s.output.toJson), ("files", s.files.toJson),
    ("rules", s.rules.toJson)] ++ s.overrides.members)

/-! ## Files -/

/-- Why settings cannot be read. -/
inductive ReadError where
  | badYaml
  | badJson
  /-- The ending of the file names no notation. -/
  | unknownEnding (ending : String)
deriving DecidableEq, Repr

/-- The settings of a file with an ending. -/
def ofText (ending text : String) : Except ReadError Settings :=
  if ending == "yaml" || ending == "yml" then
    match ofYaml? text with
    | some s => .ok s
    | none => .error .badYaml
  else if ending == "json" then
    match ((Json.Outline.parse? text).bind (Json.Outline.read? shape)).bind ofJson? with
    | some s => .ok s
    | none => .error .badJson
  else .error (.unknownEnding ending)

end Settings

end BoardLint
