import BoardLint.Json.Basic
import BoardLint.Override.Basic
import BoardLint.Yaml.Value

set_option autoImplicit false

/-! # Sources of settings

Settings come from JSON values, from YAML nodes and from YAML values. A source says how the values
of one of these kinds are read; the records of the settings are then read in one way from all of
them. -/

namespace BoardLint

/-- How values are read. Every reader has no result for a value that it refuses. -/
structure Source (α : Type) where
  text? : α → Option String
  flag? : α → Option Bool
  number? : α → Option UInt64
  /-- One of several names. -/
  choice? : α → Option String
  /-- Whether an optional value is not set. -/
  isUnset? : α → Option Bool
  list? : α → Option (List α)
  /-- The members of a map, in order, repeated keys included. -/
  members? : α → Option (List (String × α))
  /-- The fields of a record among the given names. -/
  fields? : List String → α → Option (List (String × α))
  target? : α → Option TargetIndex

namespace Source

variable {α β : Type}

/-- The members with one of the given names, refused when a name repeats. -/
def select? (names : List String) (members : List (String × α)) : Option (List (String × α)) :=
  let known := members.filter fun (k, _) => names.contains k
  if (known.map (·.1)).Nodup then some known else none

/-- The fields of a record that is given by position. -/
def positional? (names : List String) (items : List α) : Option (List (String × α)) :=
  if items.length ≤ names.length then some (names.zip items) else none

/-- The value of a field, or its default. -/
def field? (fields : List (String × α)) (name : String) (read : α → Option β) (default : β) :
    Option β :=
  match KeyMap.find? name fields with
  | some v => read v
  | none => some default

/-- The value of a field that has to be there. -/
def required? (fields : List (String × α)) (name : String) (read : α → Option β) : Option β :=
  (KeyMap.find? name fields).bind read

/-- A value that may be unset. -/
def optional? (s : Source α) (read : α → Option β) (v : α) : Option (Option β) :=
  match s.isUnset? v with
  | none => none
  | some true => some none
  | some false => (read v).map some

/-- A list of values. -/
def listOf? (s : Source α) (read : α → Option β) (v : α) : Option (List β) :=
  (s.list? v).bind fun items => items.mapM read

/-! ## JSON -/

/-- An unsigned number of 64 bits. -/
def uint64OfInt? (n : Int) : Option UInt64 :=
  if 0 ≤ n && n < (Nat.pow 2 64 : Int) then some (UInt64.ofNat n.toNat) else none

/-- One of several names: a text, or an object with the name as its key and null as its value. -/
def jsonChoice? : Json → Option String
  | .str s => some s
  | .obj [(name, .null)] => some name
  | _ => none

/-- The fields of an object, or of an array by position. -/
def jsonFields? (names : List String) : Json → Option (List (String × Json))
  | .obj members => select? names members
  | .arr items => positional? names items
  | _ => none

/-- The position of a target: a number or a text. -/
def jsonTarget? : Json → Option TargetIndex
  | .num (.int n) => (uint64OfInt? n).map .index
  | .str s => some (.text s)
  | _ => none

/-- JSON values as a source. -/
def json : Source Json where
  text? := Json.str?
  flag? := Json.bool?
  number? := fun v => v.int?.bind uint64OfInt?
  choice? := jsonChoice?
  isUnset? := fun v => some v.isNull
  list? := Json.arr?
  members? := Json.obj?
  fields? := jsonFields?
  target? := jsonTarget?

/-! ## YAML values -/

/-- The text of a value. -/
def valueText? : Yaml.Value → Option String
  | .text s => some s
  | _ => none

/-- The name of a field that a key stands for: a text is the name itself, a number a position among
    the names. -/
def keyName? (names : List String) : Yaml.Value → Option String
  | .text s => some s
  | .nat n => some (names[n]?.getD "")
  | _ => none

/-- The fields of a map, or of a list by position. -/
def valueFields? (names : List String) : Yaml.Value → Option (List (String × Yaml.Value))
  | .map pairs =>
    (pairs.mapM fun p => (keyName? names p.1).map fun name => (name, p.2)).bind (select? names)
  | .list items => positional? names items
  | _ => none

/-- The members of a map whose keys are texts. -/
def valueMembers? : Yaml.Value → Option (List (String × Yaml.Value))
  | .map pairs => pairs.mapM fun p => (valueText? p.1).map fun name => (name, p.2)
  | _ => none

/-- The position of a target: a number or a text. -/
def valueTarget? : Yaml.Value → Option TargetIndex
  | .text s => some (.text s)
  | v => (v.nat?.bind fun n => uint64OfInt? n).map .index

/-- YAML values as a source. -/
def yamlValue : Source Yaml.Value where
  text? := valueText?
  flag? := fun
    | .bool b => some b
    | _ => none
  number? := fun v => v.nat?.bind fun n => uint64OfInt? n
  choice? := valueText?
  isUnset? := fun
    | .null => some true
    | _ => some false
  list? := fun
    | .list items => some items
    | _ => none
  members? := valueMembers?
  fields? := valueFields?
  target? := valueTarget?

/-! ## YAML nodes -/

/-- The text of a scalar, whatever it means. -/
def nodeText? : Yaml → Option String
  | .scalar s _ _ => some s
  | _ => none

/-- The text of a scalar that can stand for a value of a type: a plain one, or a literal block with
    the tag of the type. -/
def typedText? (tag : String) : Yaml → Option String
  | .scalar s .plain _ => some s
  | .scalar s .literal (some t) => if t == tag then some s else none
  | _ => none

/-- Whether an optional value is not set: a plain scalar that is empty or a word for null, unless a
    tag says otherwise. -/
def nodeUnset? : Yaml → Option Bool
  | .scalar s .plain none => some (s.isEmpty || Yaml.isNullWord s)
  | .scalar s .plain (some tag) =>
    if tag == "tag:yaml.org,2002:null" then if Yaml.isNullWord s then some true else none
    else some false
  | _ => some false

/-- One of several names: a scalar, or a tag on a scalar without a value. -/
def nodeChoice? : Yaml → Option String
  | .scalar s style tag =>
    match tag.map String.toList with
    | some ['!'] => if style == .plain && (s.isEmpty || Yaml.isNullWord s) then some "!" else none
    | some ('!' :: name) =>
      if style == .plain && (s.isEmpty || Yaml.isNullWord s) then some (String.ofList name)
      else none
    | _ => some s
  | _ => none

/-- Whether a node is not written at all. -/
def isBlankNode : Yaml → Bool
  | .scalar s style _ => s.isEmpty && style == .plain
  | _ => false

/-- The items of a sequence; nothing stands for none. -/
def nodeList? (node : Yaml) : Option (List Yaml) :=
  match node with
  | .sequence items _ => some items
  | _ => if isBlankNode node then some [] else none

/-- The pairs of a mapping whose keys are scalars; nothing stands for none. -/
def nodeMembers? (node : Yaml) : Option (List (String × Yaml)) :=
  match node with
  | .mapping pairs _ => pairs.mapM fun p => (nodeText? p.1).map fun name => (name, p.2)
  | _ => if isBlankNode node then some [] else none

/-- YAML nodes as a source. -/
def yaml : Source Yaml where
  text? := nodeText?
  flag? := fun v => (typedText? "tag:yaml.org,2002:bool" v).bind Yaml.boolOf?
  number? := fun v =>
    ((typedText? "tag:yaml.org,2002:int" v).bind fun s => Yaml.natOf? s.toList).bind
      fun n => uint64OfInt? n
  choice? := nodeChoice?
  isUnset? := nodeUnset?
  list? := nodeList?
  members? := nodeMembers?
  fields? := fun names v => (nodeMembers? v).bind (select? names)
  target? := fun v => (Yaml.Value.ofNode? v).bind valueTarget?

end Source

end BoardLint
