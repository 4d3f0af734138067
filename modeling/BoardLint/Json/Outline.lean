import BoardLint.Json.Basic
import BoardLint.Json.Token
import BoardLint.Shape

set_option autoImplicit false

/-! # Outlines of JSON texts

A JSON text that is read for its structure alone. A number that is too large and a string with half
of a pair of UTF-16 units stand in it without a value. Such a value is refused only where a shape
asks for it, and so is a value that is nested too deep. -/

namespace BoardLint.Json

/-- The structure of a JSON text. -/
inductive Outline where
  | null
  | bool (value : Bool)
  | num (value : Option Number)
  | str (value : Option String)
  | arr (items : List Outline)
  | obj (members : List (Option String × Outline))
deriving Repr, Inhabited

namespace Outline

mutual

/-- What a shape asks for of an outline whose arrays and objects are nested at most `depth` deep. An
    array in the place of a record holds its fields in their order. -/
def value? (depth : Nat) (shape : Shape) : Outline → Option Json
  | .null => some .null
  | .bool b => some (.bool b)
  | .num n => match shape with
    | .ignored => some .null
    | _ => n.map .num
  | .str s => match shape with
    | .ignored => some .null
    | _ => s.map .str
  | .arr items => match shape, depth with
    | .ignored, _ => some .null
    | _, 0 => none
    | .list item, depth + 1 => (items? depth [] item items).map .arr
    | .record fields _, depth + 1 => (items? depth (fields.map (·.2)) .whole items).map .arr
    | _, depth + 1 => (items? depth [] .whole items).map .arr
  | .obj ms => match shape, depth with
    | .ignored, _ => some .null
    | _, 0 => none
    | .record fields rest, depth + 1 => (members? depth fields rest ms).map .obj
    | _, depth + 1 => (members? depth [] .whole ms).map .obj

/-- The items of an array, the first ones by shapes of their own. -/
def items? (depth : Nat) (shapes : List Shape) (rest : Shape) : List Outline → Option (List Json)
  | [] => some []
  | item :: more =>
    match value? depth (shapes.headD rest) item, items? depth shapes.tail rest more with
    | some v, some vs => some (v :: vs)
    | _, _ => none

/-- The members of an object, the named ones by shapes of their own. -/
def members? (depth : Nat) (fields : List (String × Shape)) (rest : Shape) :
    List (Option String × Outline) → Option (List (String × Json))
  | [] => some []
  | (none, _) :: _ => none
  | (some key, v) :: more =>
    match value? depth (Shape.named fields rest key) v, members? depth fields rest more with
    | some v, some vs => some ((key, v) :: vs)
    | _, _ => none

end

/-- The most that arrays and objects may be nested. -/
def maxDepth : Nat := 127

/-- What a shape asks for of an outline. -/
def read? (shape : Shape) (outline : Outline) : Option Json := value? maxDepth shape outline

end Outline

end BoardLint.Json
