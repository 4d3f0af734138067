import BoardLint.Shape
import BoardLint.Yaml.Node

set_option autoImplicit false

/-! # Documents without aliases

The nodes of a document that a shape asks for, with every alias among them replaced by the node it
stands for. An alias may stand inside its own node, so the depth of what is read is bounded, and so
is the number of aliases that are followed, in proportion to the size of the document. Where nothing
is read, aliases stay. -/

namespace BoardLint.Yaml

mutual

/-- How many marks a node consists of: one for a scalar or an alias, a beginning and an end for a
    collection. -/
def marks : Yaml → Nat
  | .scalar .. => 1
  | .alias _ => 1
  | .sequence items _ => marksOfItems items + 2
  | .mapping pairs _ => marksOfPairs pairs + 2

/-- How many marks several nodes consist of. -/
def marksOfItems : List Yaml → Nat
  | [] => 0
  | node :: rest => marks node + marksOfItems rest

/-- How many marks the pairs of a mapping consist of. -/
def marksOfPairs : List (Yaml × Yaml) → Nat
  | [] => 0
  | (key, value) :: rest => marks key + marks value + marksOfPairs rest

end

namespace Document

/-- A computation that may follow a number of aliases. -/
abbrev Follow (α : Type) := StateT Nat Option α

/-- The node that a node stands for: itself, or the one that an alias names. -/
def follow (d : Document) : Yaml → Follow Yaml
  | .alias id => do
    match ← get with
    | 0 => failure
    | left + 1 =>
      set left
      match d.anchors.find? fun (k, _) => k == id with
      | some (_, node) => pure node
      | none => failure
  | node => pure node

/-- The text of a node that is the key of a field. -/
def keyText : Yaml → String
  | .scalar text _ _ => text
  | _ => ""

/-- What a shape asks for of a node, without aliases. Collections may be nested `depth` deep. -/
def expand (d : Document) : Nat → Shape → Yaml → Follow Yaml
  | _, .ignored, node => pure node
  | _, .leaf, node => d.follow node
  | 0, _, node => do
    match ← d.follow node with
    | .scalar text style tag => pure (.scalar text style tag)
    | _ => failure
  | depth + 1, shape, node => do
    match shape, ← d.follow node with
    | .whole, .sequence items tag =>
      pure (.sequence (← items.mapM (d.expand depth .whole)) tag)
    | .whole, .mapping pairs tag =>
      let pairs ← pairs.mapM fun (key, value) => do
        let key ← d.expand depth .whole key
        pure (key, ← d.expand depth .whole value)
      pure (.mapping pairs tag)
    | .list item, .sequence items tag =>
      pure (.sequence (← items.mapM (d.expand depth item)) tag)
    | .record fields rest, .mapping pairs tag =>
      let pairs ← pairs.mapM fun (key, value) => do
        let key ← d.follow key
        pure (key, ← d.expand depth (.named fields rest (keyText key)) value)
      pure (.mapping pairs tag)
    | _, node => pure node

/-- How deep the collections of a document may be nested. -/
def maxDepth : Nat := 128

/-- How many aliases may be followed for every mark of a document. -/
def followsPerMark : Nat := 100

/-- What a shape asks for of a document. -/
def read? (d : Document) (shape : Shape) : Option Yaml :=
  ((d.expand maxDepth shape d.root).run (followsPerMark * marks d.root)).map (·.1)

end Document

end BoardLint.Yaml
