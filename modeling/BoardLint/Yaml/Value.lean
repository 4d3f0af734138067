import BoardLint.Number.Literal
import BoardLint.Yaml.Node

set_option autoImplicit false

/-! # YAML values

What a scalar means when nothing else says so: null, a truth value, a number or a text. A tag of the
core schema asks for one of them. A tag of another kind has no meaning here and is refused, and so
is an alias that was not followed. -/

namespace BoardLint.Yaml

/-- A value of a document. -/
inductive Value where
  | null
  | bool (value : Bool)
  /-- A whole number that is written without a minus sign. -/
  | nat (value : Nat)
  /-- A whole number that is written with a minus sign, by its magnitude. -/
  | negative (magnitude : Nat)
  | real (value : Binary64)
  | text (value : String)
  | list (items : List Value)
  | map (pairs : List (Value × Value))
deriving Repr, Inhabited

/-! ## Scalars -/

/-- Whether a text is one of the words for null. -/
def isNullWord (s : String) : Bool := ["null", "Null", "NULL", "~"].contains s

/-- The truth value of a word. -/
def boolOf? (s : String) : Option Bool :=
  if ["true", "True", "TRUE"].contains s then some true
  else if ["false", "False", "FALSE"].contains s then some false
  else none

/-- Whether a text is digits after a leading zero, which are no number. -/
def hasLeadingZero (text : List Char) : Bool :=
  let digits := match text with
    | '+' :: rest => rest
    | '-' :: rest => rest
    | _ => text
  digits.length > 1 && digits.head? == some '0' && digits.all Char.isDigit

/-- A number in digits of a base of at most 16. -/
def digitsIn? (base : Nat) (text : List Char) : Option Nat :=
  if text.isEmpty then none
  else text.foldlM (fun n c => ((Text.hexValue? c).filter (· < base)).map (n * base + ·)) 0

/-- The digits of a number in a base given by its mark. -/
def marked? (text : List Char) : Option Nat :=
  match text with
  | '0' :: 'x' :: rest => digitsIn? 16 rest
  | '0' :: 'o' :: rest => digitsIn? 8 rest
  | '0' :: 'b' :: rest => digitsIn? 2 rest
  | _ => none

/-- A number without a minus sign. -/
def natOf? (text : List Char) : Option Nat :=
  let digits := match text with
    | '+' :: rest => rest
    | _ => text
  match marked? digits with
  | some n => some n
  | none => if hasLeadingZero text then none else Text.nat? digits

/-- The magnitude of a number with a minus sign. -/
def negativeOf? (text : List Char) : Option Nat :=
  match text with
  | '-' :: rest =>
    match marked? rest with
    | some n => some n
    | none => if hasLeadingZero text then none else Text.nat? rest
  | _ => none

/-- A finite double, or one of the words for infinity and NaN. -/
def realOf? (text : List Char) : Option Binary64 :=
  let word := String.ofList text
  if [".inf", ".Inf", ".INF", "+.inf", "+.Inf", "+.INF"].contains word then some (.infinite false)
  else if ["-.inf", "-.Inf", "-.INF"].contains word then some (.infinite true)
  else if [".nan", ".NaN", ".NAN"].contains word then some .nan
  else
    match text with
    | '+' :: '+' :: _ => none
    | '+' :: '-' :: _ => none
    | _ => (Binary64.ofText? text).filter Binary64.isFinite

namespace Value

/-- A whole number as a value. One of more than 64 bits is refused, one of more than 128 bits is
    none. -/
def ofWhole (text : List Char) : Option (Option Value) :=
  match natOf? text, negativeOf? text with
  | some n, _ =>
    if n < Nat.pow 2 64 then some (some (.nat n))
    else if n < Nat.pow 2 128 then some none else none
  | none, some n =>
    if n ≤ Nat.pow 2 63 then some (some (.negative n))
    else if n ≤ Nat.pow 2 127 then some none else none
  | none, none => none

/-- The number that a value is, if it is natural. -/
def nat? : Value → Option Nat
  | .nat n => some n
  | .negative 0 => some 0
  | _ => none

/-- The value of a plain scalar without a tag. -/
def ofPlain? (s : String) : Option Value :=
  if s.isEmpty || isNullWord s then some .null
  else
    match boolOf? s with
    | some b => some (.bool b)
    | none =>
      match ofWhole s.toList with
      | some v => v
      | none =>
        if hasLeadingZero s.toList then some (.text s)
        else some (((realOf? s.toList).map Value.real).getD (.text s))

/-- The value of a scalar. -/
def ofScalar? (s : String) (style : Style) : Option String → Option Value
  | none => if style == .plain then ofPlain? s else some (.text s)
  | some tag =>
    if tag == "tag:yaml.org,2002:bool" then (boolOf? s).map .bool
    else if tag == "tag:yaml.org,2002:int" then (ofWhole s.toList).bind id
    else if tag == "tag:yaml.org,2002:float" then (realOf? s.toList).map .real
    else if tag == "tag:yaml.org,2002:null" then if isNullWord s then some .null else none
    else if tag.toList.head? == some '!' then none
    else some (.text s)

/-- Whether a tag is none of the core schema. -/
def isForeign (tag : Option String) : Bool :=
  tag.any fun t => t.toList.head? == some '!'

mutual

/-- The value of a node. -/
def ofNode? : Yaml → Option Value
  | .scalar s style tag => ofScalar? s style tag
  | .sequence items tag => if isForeign tag then none else (ofItems? items).map .list
  | .mapping pairs tag => if isForeign tag then none else (ofPairs? pairs).map .map
  | .alias _ => none

/-- The values of several nodes. -/
def ofItems? : List Yaml → Option (List Value)
  | [] => some []
  | node :: rest =>
    match ofNode? node, ofItems? rest with
    | some v, some vs => some (v :: vs)
    | _, _ => none

/-- The values of the keys and values of a mapping. -/
def ofPairs? : List (Yaml × Yaml) → Option (List (Value × Value))
  | [] => some []
  | (key, value) :: rest =>
    match ofNode? key, ofNode? value, ofPairs? rest with
    | some k, some v, some more => some ((k, v) :: more)
    | _, _, _ => none

end

end Value

end BoardLint.Yaml
