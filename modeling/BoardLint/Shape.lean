set_option autoImplicit false

/-! # Shapes of documents

Which parts of a document are read. Settings are read field by field, and what no field asks for is
passed over without a look at what stands in it; a shape says so in advance, for documents of every
notation. -/

namespace BoardLint

/-- What is read of a value. -/
inductive Shape where
  /-- Nothing. -/
  | ignored
  /-- The value itself; nothing is read of a collection in its place. -/
  | leaf
  /-- Everything. -/
  | whole
  /-- The items of a list, all in the same way. -/
  | list (item : Shape)
  /-- The members of a map: the named fields in their own ways, all others in the same way. -/
  | record (fields : List (String × Shape)) (rest : Shape)
deriving Repr, Inhabited

namespace Shape

/-- The members of a map whatever their names are. -/
def map (value : Shape) : Shape := .record [] value

/-- Named fields that are read alone. -/
def fields (fields : List (String × Shape)) : Shape := .record fields .ignored

/-- The shape of a field. -/
def named (fields : List (String × Shape)) (rest : Shape) (name : String) : Shape :=
  ((fields.find? fun (k, _) => k == name).map (·.2)).getD rest

end Shape

end BoardLint
