import BoardLint.Json.Number

set_option autoImplicit false

/-! # JSON tokens

The tokens of a JSON text. Blanks are space, tab, line feed and carriage return. A string is read in
two stages: first its characters and escapes as pieces, then the pieces that are UTF-16 units are
paired into characters. A number that is too large and a string with a unit that has no partner are
tokens without a value. -/

namespace BoardLint.Json

/-- A token of a JSON text. -/
inductive Token where
  | openObject
  | closeObject
  | openArray
  | closeArray
  | comma
  | colon
  | null
  | bool (value : Bool)
  | num (value : Option Number)
  | str (value : Option String)
deriving DecidableEq, Repr

namespace Token

/-! ## Strings -/

/-- A part of a string: a character, or a UTF-16 unit given by its number. -/
inductive Piece where
  | char (c : Char)
  | unit (n : Nat)
deriving DecidableEq, Repr

/-- The character that a one-letter escape stands for. -/
def escaped? (c : Char) : Option Char :=
  if c == '"' || c == '\\' || c == '/' then some c
  else if c == 'b' then some '\x08'
  else if c == 'f' then some '\x0c'
  else if c == 'n' then some '\n'
  else if c == 'r' then some '\r'
  else if c == 't' then some '\t'
  else none

/-- The number of four hexadecimal digits. -/
def unit? (a b c d : Char) : Option Nat := do
  let a ← Text.hexValue? a
  let b ← Text.hexValue? b
  let c ← Text.hexValue? c
  let d ← Text.hexValue? d
  some (((a * 16 + b) * 16 + c) * 16 + d)

/-- The pieces up to the closing quote, in reverse order before `done`, and the rest of the text. A
    control character that is not escaped is refused. -/
def pieces? (done : List Piece) : List Char → Option (List Piece × List Char)
  | [] => none
  | '\\' :: 'u' :: a :: b :: c :: d :: rest =>
    match unit? a b c d with
    | some n => pieces? (.unit n :: done) rest
    | none => none
  | '\\' :: c :: rest =>
    match escaped? c with
    | some c => pieces? (.char c :: done) rest
    | none => none
  | c :: rest =>
    if c == '"' then some (done.reverse, rest)
    else if c.toNat < 32 || c == '\\' then none
    else pieces? (.char c :: done) rest

/-- The characters of the pieces, in reverse order before `done`. A leading half of a pair has to be
    followed by a trailing half, and a trailing half stands nowhere else. -/
def joined? (done : List Char) : List Piece → Option (List Char)
  | [] => some done.reverse
  | .char c :: rest => joined? (c :: done) rest
  | .unit n :: .unit m :: rest =>
    if 0xD800 ≤ n && n < 0xDC00 then
      if 0xDC00 ≤ m && m < 0xE000 then
        joined? (Char.ofNat (0x10000 + (n - 0xD800) * 0x400 + (m - 0xDC00)) :: done) rest
      else none
    else if 0xDC00 ≤ n && n < 0xE000 then none
    else joined? (Char.ofNat n :: done) (.unit m :: rest)
  | .unit n :: rest =>
    if 0xD800 ≤ n && n < 0xE000 then none else joined? (Char.ofNat n :: done) rest

/-- A string after its opening quote, and the rest of the text. -/
def scanString? (text : List Char) : Option (Option String × List Char) :=
  (pieces? [] text).map fun (pieces, rest) => ((joined? [] pieces).map String.ofList, rest)

/-! ## The lexer -/

/-- The token that a single character makes. -/
def single? (c : Char) : Option Token :=
  if c == '\x7b' then some .openObject
  else if c == '\x7d' then some .closeObject
  else if c == '[' then some .openArray
  else if c == ']' then some .closeArray
  else if c == ',' then some .comma
  else if c == ':' then some .colon
  else none

/-- Blanks between tokens. -/
def isGap (c : Char) : Bool :=
  c == ' ' || c == '\t' || c == '\n' || c == '\r'

/-- A word with a meaning, and the rest of the text. -/
def scanWord? (text : List Char) : Option (Token × List Char) :=
  match Text.after? "null".toList text with
  | some rest => some (.null, rest)
  | none =>
    match Text.after? "true".toList text with
    | some rest => some (.bool true, rest)
    | none => (Text.after? "false".toList text).map fun rest => (.bool false, rest)

/-- The token that begins with the first of the given characters, and the rest of the text. -/
def scanOne? (c : Char) (rest : List Char) : Option (Token × List Char) :=
  match single? c with
  | some token => some (token, rest)
  | none =>
    if c == '"' then (scanString? rest).map fun (s, rest) => (.str s, rest)
    else if c == '-' || c.isDigit then
      (Number.scan? (c :: rest)).map fun (n, rest) => (.num n, rest)
    else scanWord? (c :: rest)

/-- The tokens of a text, in reverse order before `done`. Every step shortens the text, so its
    length is fuel enough. -/
def scan? : Nat → List Token → List Char → Option (List Token)
  | _, done, [] => some done.reverse
  | 0, _, _ :: _ => none
  | fuel + 1, done, c :: rest =>
    if isGap c then scan? fuel done rest
    else
      match scanOne? c rest with
      | some (token, rest) => scan? fuel (token :: done) rest
      | none => none

end Token

/-- The tokens of a JSON text. -/
def tokens? (text : List Char) : Option (List Token) :=
  Token.scan? text.length [] text

end BoardLint.Json
