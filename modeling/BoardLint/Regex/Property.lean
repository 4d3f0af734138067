import BoardLint.Text.Word
import BoardLint.Unicode.Age
import BoardLint.Unicode.Category
import BoardLint.Unicode.Script
import BoardLint.Unicode.Segmentation
import BoardLint.Unicode.Trait

set_option autoImplicit false

/-! # Character properties

The names by which a regular expression refers to a set of characters: traits, general categories
and scripts by their names alone, and the values of a property by the names of both. Names are
compared without case, blanks, hyphens and underscores, and without a leading `is`. -/

namespace BoardLint.Regex

open Unicode (CodeSet Named)

/-! ## Names -/

/-- A name without a leading `is`. -/
def withoutIs (name : List Char) : Bool × List Char :=
  match name with
  | a :: b :: rest => if a.toLower == 'i' && b.toLower == 's' then (true, rest) else (false, name)
  | _ => (false, name)

/-- The form in which names are compared. The name of a property that is no set of characters keeps
    its `is`, so that it is not taken for the letter that is left of it. -/
def canonicalName (name : List Char) : String :=
  let (stripped, rest) := withoutIs name
  let isKept (c : Char) := c.toNat < 128 && c != ' ' && c != '-' && c != '_'
  let plain := (rest.filter isKept).map Char.toLower
  if stripped && plain == ['c'] then "isc" else String.ofList plain

/-! ## Sets -/

/-- The set of a property that is given by its name alone. -/
def namedSet? (name : List Char) : Option CodeSet :=
  let name := canonicalName name
  match Unicode.trait? name with
  | some s => some s
  | none =>
    match Unicode.category? name with
    | some s => some s
    | none => Unicode.script? name

/-- The set of a property that is given by a kind and one of its values. -/
def valueSet? (kind value : List Char) : Option CodeSet :=
  let kind := canonicalName kind
  let value := canonicalName value
  if kind == "gc" || kind == "generalcategory" then Unicode.category? value
  else if kind == "sc" || kind == "script" then Unicode.script? value
  else if kind == "scx" || kind == "scriptextensions" then Unicode.scriptExtension? value
  else if kind == "age" then Unicode.age? value
  else if kind == "gcb" || kind == "graphemeclusterbreak" then
    Named.find? Unicode.clusterTable value
  else if kind == "wb" || kind == "wordbreak" then Named.find? Unicode.wordTable value
  else if kind == "sb" || kind == "sentencebreak" then Named.find? Unicode.sentenceTable value
  else none

/-- What stands before and after the first place where a text has another one. -/
def cutAtText? (mark : List Char) : List Char → List Char → Option (List Char × List Char)
  | _, [] => none
  | before, c :: rest =>
    if mark.isPrefixOf (c :: rest) then some (before.reverse, (c :: rest).drop mark.length)
    else cutAtText? mark (c :: before) rest

/-- The set that the text between the braces of a property names, and whether it is turned into its
    complement. -/
def propertySet? (text : List Char) : Option (CodeSet × Bool) :=
  match cutAtText? ['!', '='] [] text with
  | some (kind, value) => (valueSet? kind value).map fun s => (s, true)
  | none =>
    match cutAtText? [':'] [] text with
    | some (kind, value) => (valueSet? kind value).map fun s => (s, false)
    | none =>
      match cutAtText? ['='] [] text with
      | some (kind, value) => (valueSet? kind value).map fun s => (s, false)
      | none => (namedSet? text).map fun s => (s, false)

/-! ## The sets of the one-letter escapes -/

/-- The set of ranges in increasing order that do not touch each other. -/
def ofIncreasing (ranges : List (Nat × Nat)) : CodeSet :=
  ⟨ranges.flatMap fun (low, high) => [low, high + 1]⟩

/-- The word characters of ASCII. -/
def asciiWordRanges : List (Nat × Nat) := [(48, 57), (65, 90), (95, 95), (97, 122)]

/-- The digits, of all scripts or of ASCII. -/
def digitSet (wide : Bool) : CodeSet :=
  if wide then (Unicode.category? "nd").getD .empty else .range 48 57

/-- The white space, of all scripts or of ASCII. -/
def spaceSet (wide : Bool) : CodeSet :=
  if wide then (Unicode.trait? "wspace").getD .empty else ofIncreasing [(9, 13), (32, 32)]

/-- The word characters, of all scripts or of ASCII. -/
def wordSet (wide : Bool) : CodeSet :=
  ofIncreasing (asciiWordRanges ++ if wide then Text.wordRanges else [])

end BoardLint.Regex
