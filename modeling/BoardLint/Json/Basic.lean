import BoardLint.Json.Number

set_option autoImplicit false

/-! # JSON values

Values of a JSON document. An object is the list of its members in their order in the text; a
reader keeps members that repeat a key, and `merged` applies the policy for them: the last value at
the place of the first. -/

namespace BoardLint

/-- A JSON value. -/
inductive Json where
  | null
  | bool (value : Bool)
  | num (value : Json.Number)
  | str (value : String)
  | arr (items : List Json)
  | obj (members : List (String × Json))
deriving Repr, Inhabited

namespace Json

/-- The members of an object, in order. -/
abbrev Members := List (String × Json)

/-- A whole number as a value. -/
def ofInt (n : Int) : Json := .num (.int n)

/-- A natural number as a value. -/
def ofNat (n : Nat) : Json := .num (.int n)

/-- A list of texts as a value. -/
def ofStrings (xs : List String) : Json := .arr (xs.map .str)

/-! ## Members -/

namespace Members

/-- The value of a key. -/
def get? (key : String) : Members → Option Json
  | [] => none
  | (k, v) :: rest => if k == key then some v else get? key rest

/-- Puts a value at a key: in its place if the key is there, at the end if not. -/
def set (key : String) (value : Json) : Members → Members
  | [] => [(key, value)]
  | (k, v) :: rest => if k == key then (k, value) :: rest else (k, v) :: set key value rest

/-- The members with every key once: the last value at the place of the first. -/
def merge (members : Members) : Members :=
  members.foldl (fun done (k, v) => set k v done) []

/-- Whether a key occurs more than once. -/
def repeats (key : String) (members : Members) : Bool :=
  (members.filter fun (k, _) => k == key).length > 1

end Members

/-! ## Merging repeated keys -/

mutual

/-- The value with every key of every object once. -/
def merged : Json → Json
  | .arr items => .arr (mergedItems items)
  | .obj members => .obj (Members.merge (mergedMembers members))
  | value => value

/-- The items of an array, each merged. -/
def mergedItems : List Json → List Json
  | [] => []
  | v :: rest => merged v :: mergedItems rest

/-- The members of an object, each value merged. -/
def mergedMembers : List (String × Json) → List (String × Json)
  | [] => []
  | (k, v) :: rest => (k, merged v) :: mergedMembers rest

end

/-! ## Views -/

/-- The text of a string value. -/
def str? : Json → Option String
  | .str s => some s
  | _ => none

/-- The truth value of a Boolean. -/
def bool? : Json → Option Bool
  | .bool b => some b
  | _ => none

/-- The items of an array. -/
def arr? : Json → Option (List Json)
  | .arr items => some items
  | _ => none

/-- The members of an object. -/
def obj? : Json → Option Members
  | .obj members => some members
  | _ => none

/-- A whole number. -/
def int? : Json → Option Int
  | .num (.int n) => some n
  | _ => none

/-- Whether the value is null. -/
def isNull : Json → Bool
  | .null => true
  | _ => false

/-- The value at a key of an object. -/
def get? (key : String) : Json → Option Json
  | .obj members => Members.get? key members
  | _ => none

end Json

end BoardLint
