import BoardLint.Regex.Pattern
import BoardLint.Regex.Property
import BoardLint.Text.Basic
import BoardLint.Unicode.CaseFold

set_option autoImplicit false

/-! # Escapes

What a backslash begins in a regular expression: a literal character, a set of characters, or a
condition on the surrounding text. References to groups are not part of the language. -/

namespace BoardLint.Regex

open Unicode (CodeSet)

/-- The switches that decide how a regular expression is read. -/
structure Mode where
  /-- Blanks and comments are skipped. -/
  spaced : Bool
  /-- Sets of characters range over all of Unicode; without it over ASCII. -/
  wide : Bool
  /-- Upper and lower case are the same. -/
  folded : Bool
  /-- `^` and `$` stand for the ends of lines. -/
  lines : Bool
  /-- The dot stands for a line feed too. -/
  dotAll : Bool
  /-- A line ends with a carriage return, a line feed or both. -/
  crlf : Bool
  /-- A repetition is reluctant unless it is marked. -/
  swapped : Bool
deriving DecidableEq, Repr

/-- The mode at the beginning of a regular expression. -/
def Mode.initial : Mode := ⟨false, true, false, false, false, false, false⟩

/-- What stands for itself in a regular expression. -/
inductive Atom where
  /-- A character; `isByte` tells one that is given by the number of a byte. -/
  | literal (c : Char) (isByte : Bool)
  | set (s : CodeSet)
  | look (l : Look)
deriving DecidableEq, Repr

/-! ## Blanks -/

/-- Skips blanks and comments; a comment goes from `#` to the end of its line. -/
def skipSpaced (inComment : Bool) : List Char → List Char
  | [] => []
  | c :: text =>
    if inComment then skipSpaced (c != '\n') text
    else if c == '#' then skipSpaced true text
    else if Text.isBlank c then skipSpaced false text
    else c :: text

/-- Skips what the mode lets stand between the parts of an expression. -/
def Mode.skip (m : Mode) (text : List Char) : List Char :=
  if m.spaced then skipSpaced false text else text

/-! ## Sets and case -/

/-- The letters of ASCII in a set, in both cases. -/
def foldAscii (s : CodeSet) : CodeSet :=
  let families := (List.range 26).map fun i => [65 + i, 97 + i]
  let touched := families.filter fun family => family.any s.contains
  s.union (.ofPoints touched.flatten)

/-- A set as the mode takes it: with both cases of its letters if case does not matter. -/
def Mode.fold (m : Mode) (s : CodeSet) : CodeSet :=
  if !m.folded then s else if m.wide then s.foldCase else foldAscii s

/-- A set or its complement, as the mode takes it. Only a set that is wide has a complement. -/
def Mode.refine? (m : Mode) (negated : Bool) (s : CodeSet) : Option CodeSet :=
  if !negated then some (m.fold s) else if m.wide then some (m.fold s).complement else none

/-! ## Escapes -/

/-- The characters with a meaning of their own. -/
def isMeta (c : Char) : Bool := "\\.+*?()|[]\x7b\x7d^$#&-~".toList.contains c

/-- The characters that a backslash makes literal: those of ASCII that are neither letters nor
    digits nor angle brackets. -/
def isEscapable (c : Char) : Bool :=
  isMeta c || (c.toNat < 128 && !c.isAlphanum && c != '<' && c != '>')

/-- The value of hexadecimal digits, if it is a character. -/
def hexChar? (digits : List Char) : Option Char := do
  let value ← digits.foldlM (fun n c => (Text.hexValue? c).map (n * 16 + ·)) 0
  if digits.isEmpty || (0xD800 ≤ value && value < 0xE000) || value > 0x10FFFF then none
  else some (Char.ofNat value)

/-- The characters up to a closing brace, in reverse order before `done`, and the rest of the text.
    Every step shortens the text, so its length is fuel enough. -/
def scanBraced? (m : Mode) : Nat → List Char → List Char → Option (List Char × List Char)
  | 0, _, _ => none
  | fuel + 1, done, text =>
    match m.skip text with
    | [] => none
    | c :: rest =>
      if c == '\x7d' then some (done.reverse, rest) else scanBraced? m fuel (c :: done) rest

/-- A number of characters, in reverse order before `done`, and the rest of the text. -/
def scanCounted? (m : Mode) : Nat → List Char → List Char → Option (List Char × List Char)
  | 0, done, text => some (done.reverse, text)
  | n + 1, done, text =>
    match m.skip text with
    | [] => none
    | c :: rest => scanCounted? m n (c :: done) rest

/-- A character given by hexadecimal digits: exactly `count` of them, or any number in braces. The
    number of a byte has two digits and no braces. -/
def scanHex? (m : Mode) (count : Nat) (text : List Char) : Option (Atom × List Char) :=
  match m.skip text with
  | '\x7b' :: text => do
    let (digits, rest) ← scanBraced? m (text.length + 1) [] text
    some (.literal (← hexChar? digits) false, rest)
  | text => do
    let (digits, rest) ← scanCounted? m count [] text
    some (.literal (← hexChar? digits) (count == 2), rest)

/-- A property after its letter: one more letter, or a name in braces. -/
def scanProperty? (m : Mode) (negated : Bool) (text : List Char) : Option (Atom × List Char) := do
  let (name, rest) ←
    match m.skip text with
    | [] => none
    | c :: text =>
      if c == '\x7b' then scanBraced? m (text.length + 1) [] text
      else if c == '\\' then none
      else some ([c], text)
  let (s, turned) ← propertySet? name
  some (.set (← m.refine? (negated != turned) s), rest)

/-- The name of a word boundary in braces, in reverse order before `done`, and the rest of the text
    from the closing brace on. -/
def scanBoundaryName (m : Mode) : Nat → List Char → List Char → List Char × List Char
  | 0, done, text => (done.reverse, text)
  | fuel + 1, done, text =>
    match m.skip text with
    | [] => (done.reverse, [])
    | c :: rest =>
      if c.isAlpha || c == '-' then scanBoundaryName m fuel (c :: done) rest
      else (done.reverse, c :: rest)

/-- The kind of word boundary that follows `\b`, where a name may stand in braces. Braces that do
    not begin with a letter or a hyphen are left for a repetition. -/
def scanBoundary? (m : Mode) (text : List Char) : Option (Look × List Char) :=
  match text with
  | '\x7b' :: inner =>
    if (m.skip inner).isEmpty then none
    else
      match scanBoundaryName m (inner.length + 1) [] inner with
      | ([], _) => some (.boundary m.wide, text)
      | (name, '\x7d' :: rest) =>
        let name := String.ofList name
        if name == "start" then some (.wordStart m.wide, rest)
        else if name == "end" then some (.wordEnd m.wide, rest)
        else if name == "start-half" then some (.wordStartHalf m.wide, rest)
        else if name == "end-half" then some (.wordEndHalf m.wide, rest)
        else none
      | _ => none
  | _ => some (.boundary m.wide, text)

/-- The literal that an escape with a letter stands for. -/
def controlChar? (c : Char) : Option Char :=
  if c == 'a' then some '\x07'
  else if c == 'f' then some '\x0c'
  else if c == 't' then some '\t'
  else if c == 'n' then some '\n'
  else if c == 'r' then some '\r'
  else if c == 'v' then some '\x0b'
  else none

/-- The set of an escape with one letter. -/
def classSet? (m : Mode) (c : Char) : Option CodeSet :=
  if c == 'd' then some (digitSet m.wide)
  else if c == 's' then some (spaceSet m.wide)
  else if c == 'w' then some (wordSet m.wide)
  else none

/-- What follows a backslash. -/
def scanEscape? (m : Mode) : List Char → Option (Atom × List Char)
  | [] => none
  | c :: text =>
    if c.isDigit then none
    else if c == 'x' then scanHex? m 2 text
    else if c == 'u' then scanHex? m 4 text
    else if c == 'U' then scanHex? m 8 text
    else if c == 'p' || c == 'P' then if m.wide then scanProperty? m (c == 'P') text else none
    else if c == 'd' || c == 's' || c == 'w' then (classSet? m c).map fun s => (.set s, text)
    else if c == 'D' || c == 'S' || c == 'W' then
      if m.wide then (classSet? m c.toLower).map fun s => (.set s.complement, text) else none
    else if isEscapable c then some (.literal c false, text)
    else if c == 'A' then some (.look .textStart, text)
    else if c == 'z' then some (.look .textEnd, text)
    else if c == 'B' then some (.look (.noBoundary m.wide), text)
    else if c == '<' then some (.look (.wordStart m.wide), text)
    else if c == '>' then some (.look (.wordEnd m.wide), text)
    else if c == 'b' then (scanBoundary? m text).map fun (l, rest) => (.look l, rest)
    else (controlChar? c).map fun c => (.literal c false, text)

end BoardLint.Regex
