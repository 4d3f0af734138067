import BoardLint.Json.Outline

set_option autoImplicit false

/-! # Reading JSON

The outline of a list of tokens, by a machine that takes one token at a time. Its state is the stack
of the arrays and objects that are open, and what may come next. The value of a text is what its
outline holds. -/

namespace BoardLint.Json

namespace Reader

/-- The members of an object that is open, in reverse order. -/
abbrev Members := List (Option String × Outline)

/-- An array or object that is open, with what it holds so far in reverse order. -/
inductive Frame where
  | arr (done : List Outline)
  | obj (done : Members) (key : Option String)
deriving Repr

/-- What may come next. -/
inductive Mode where
  /-- A value. -/
  | value
  /-- A value or the end of the array that was just opened. -/
  | firstItem
  /-- A key or the end of the object that was just opened. -/
  | firstKey (done : Members)
  /-- A key. -/
  | key (done : Members)
  /-- A colon after a key. -/
  | colon (done : Members) (key : Option String)
  /-- A comma or the end of the array, after an item. -/
  | afterItem (done : List Outline)
  /-- A comma or the end of the object, after a member. -/
  | afterMember (done : Members)
  /-- Nothing: the value is complete. -/
  | finish (value : Outline)
deriving Repr

/-- The state of the machine. -/
structure State where
  frames : List Frame
  mode : Mode
deriving Repr

/-- The state after a complete value. -/
def deliver (value : Outline) : List Frame → State
  | [] => ⟨[], .finish value⟩
  | .arr done :: frames => ⟨frames, .afterItem (value :: done)⟩
  | .obj done key :: frames => ⟨frames, .afterMember ((key, value) :: done)⟩

/-- A token where a value is expected. -/
def beginValue (frames : List Frame) : Token → Option State
  | .null => some (deliver .null frames)
  | .bool b => some (deliver (.bool b) frames)
  | .num n => some (deliver (.num n) frames)
  | .str s => some (deliver (.str s) frames)
  | .openArray => some ⟨frames, .firstItem⟩
  | .openObject => some ⟨frames, .firstKey []⟩
  | _ => none

/-- One step of the machine. -/
def step (s : State) (t : Token) : Option State :=
  match s.mode, t with
  | .value, t => beginValue s.frames t
  | .firstItem, .closeArray => some (deliver (.arr []) s.frames)
  | .firstItem, t => beginValue (.arr [] :: s.frames) t
  | .firstKey _, .closeObject => some (deliver (.obj []) s.frames)
  | .firstKey done, .str key => some ⟨s.frames, .colon done key⟩
  | .key done, .str key => some ⟨s.frames, .colon done key⟩
  | .colon done key, .colon => some ⟨.obj done key :: s.frames, .value⟩
  | .afterItem done, .comma => some ⟨.arr done :: s.frames, .value⟩
  | .afterItem done, .closeArray => some (deliver (.arr done.reverse) s.frames)
  | .afterMember done, .comma => some ⟨s.frames, .key done⟩
  | .afterMember done, .closeObject => some (deliver (.obj done.reverse) s.frames)
  | _, _ => none

/-- The machine over a list of tokens. -/
def run (s : State) : List Token → Option State
  | [] => some s
  | t :: rest =>
    match step s t with
    | some s => run s rest
    | none => none

end Reader

/-- The outline of a list of tokens, if they make exactly one value. -/
def Outline.ofTokens? (tokens : List Token) : Option Outline :=
  match Reader.run ⟨[], .value⟩ tokens with
  | some ⟨_, .finish value⟩ => some value
  | _ => none

/-- The outline of a text. -/
def Outline.parse? (text : String) : Option Outline := do
  ofTokens? (← tokens? text.toList)

/-- The value of a text, every key of an object once. -/
def parse? (text : String) : Option Json :=
  ((Outline.parse? text).bind (Outline.read? .whole)).map merged

end BoardLint.Json
