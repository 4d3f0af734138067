import BoardLint.Text.Basic
import BoardLint.Text.Word

set_option autoImplicit false

/-! # Variable references

A query refers to a variable as `$name`, `${name}` or `[[name]]`; between braces or double brackets
a format can follow the name after a colon. `pieces` cuts a text into its references and the
characters between them. -/

namespace BoardLint.Variable

/-- The three ways to refer to a name. -/
def spellings (name : String) : List String :=
  ["$" ++ name, "$\x7b" ++ name ++ "\x7d", "[[" ++ name ++ "]]"]

/-- A piece of a text. -/
inductive Piece where
  | char (c : Char)
  | token (text : List Char)
deriving DecidableEq, Repr

/-- The characters of a piece. -/
def Piece.chars : Piece → List Char
  | .char c => [c]
  | .token text => text

/-- A reference `$name` or `${name}` after its dollar sign. A word is preferred to braces. -/
def afterDollar? (text : List Char) : Option (List Char × List Char) :=
  match text.span Text.isWord with
  | ([], _) =>
    match text with
    | '\x7b' :: inner =>
      match inner.span (· != '\x7d') with
      | ([], _) => none
      | (_, []) => none
      | (name, close :: rest) => some ('$' :: '\x7b' :: name ++ [close], rest)
    | _ => none
  | (word, rest) => some ('$' :: word, rest)

/-- A reference `[[name]]` after its opening brackets. -/
def afterBrackets? (text : List Char) : Option (List Char × List Char) :=
  match text.span fun c => c != '[' && c != ']' with
  | ([], _) => none
  | (name, ']' :: ']' :: rest) => some ('[' :: '[' :: name ++ [']', ']'], rest)
  | _ => none

/-- The reference at the beginning of a text, and the rest. -/
def token? : List Char → Option (List Char × List Char)
  | '$' :: rest => afterDollar? rest
  | '[' :: '[' :: rest => afterBrackets? rest
  | _ => none

/-- The pieces of a text, cut from the front. Every piece has at least one character, so the length
    of the text is fuel enough. -/
def piecesOf : Nat → List Char → List Piece
  | 0, _ => []
  | _, [] => []
  | fuel + 1, c :: text =>
    match token? (c :: text) with
    | some (token, rest) => .token token :: piecesOf fuel rest
    | none => .char c :: piecesOf fuel text

/-- The pieces of a text. -/
def pieces (text : List Char) : List Piece := piecesOf text.length text

/-- A text without the marks of a reference around it. Marks of different kinds may be mixed. -/
def bare (text : List Char) : List Char :=
  let text := match text with
    | '[' :: '[' :: rest => rest
    | '$' :: '\x7b' :: rest => rest
    | '$' :: rest => rest
    | _ => text
  match Text.before? [']', ']'] text with
  | some rest => rest
  | none => (Text.before? ['\x7d'] text).getD text

/-- The name in a reference: its bare text up to the first colon. -/
def nameOf (text : List Char) : List Char := (bare text).takeWhile (· != ':')

/-- Whether a text has any of the marks of a reference. -/
def hasMarks (text : List Char) : Bool :=
  text.contains '$' || Text.contains ['[', '['] text || text.contains '\x7b'

end BoardLint.Variable
