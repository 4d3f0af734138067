import BoardLint.Text.Basic

set_option autoImplicit false

/-! # Positions in a YAML text

A cursor is the rest of a text together with the line, the column and the number of characters in
front of it. YAML measures indentation in columns, so every step over a character goes through the
cursor. -/

namespace BoardLint.Yaml

/-- The rest of a text and where it begins. -/
structure Cursor where
  text : List Char
  line : Nat
  column : Nat
  index : Nat
deriving Repr

/-- A line break. -/
def isBreak (c : Char) : Bool :=
  c == '\n' || c == '\r' || c == '\u0085' || c == '\u2028' || c == '\u2029'

/-- A space or a tab. -/
def isSpace (c : Char) : Bool := c == ' ' || c == '\t'

/-- A space, a tab or a line break. -/
def isGap (c : Char) : Bool := isSpace c || isBreak c

/-- A character that may stand in a YAML text. -/
def isAllowed (c : Char) : Bool :=
  let n := c.toNat
  n == 0x09 || n == 0x0A || n == 0x0D || (0x20 ≤ n && n ≤ 0x7E) || n == 0x85 ||
    (0xA0 ≤ n && n ≤ 0xD7FF) || (0xE000 ≤ n && n ≤ 0xFFFD) || 0x10000 ≤ n

namespace Cursor

/-- The beginning of a text. -/
def ofText (text : List Char) : Cursor := ⟨text, 0, 0, 0⟩

/-- The character at the cursor. -/
def char? (c : Cursor) : Option Char := c.text.head?

/-- Whether a character stands at the cursor. -/
def sees (c : Cursor) (ch : Char) : Bool := c.text.head? == some ch

/-- Whether a gap or the end of the text is `n` characters ahead. -/
def gapAt (c : Cursor) (n : Nat) : Bool :=
  match c.text[n]? with
  | some ch => isGap ch
  | none => true

/-- Whether the character at the cursor satisfies a test. -/
def satisfies (c : Cursor) (test : Char → Bool) : Bool := (c.char?.map test).getD false

/-- The cursor after `n` characters of the same line. -/
def skip (c : Cursor) (n : Nat) : Cursor :=
  ⟨c.text.drop n, c.line, c.column + n, c.index + n⟩

/-- The cursor after a line break, and the break as it counts in a scalar. -/
def breakLine (c : Cursor) : List Char × Cursor :=
  match c.text with
  | '\r' :: '\n' :: rest => (['\n'], ⟨rest, c.line + 1, 0, c.index + 2⟩)
  | ch :: rest =>
    let shown := if ch == '\u2028' || ch == '\u2029' then ch else '\n'
    ([shown], ⟨rest, c.line + 1, 0, c.index + 1⟩)
  | [] => ([], c)

/-- The characters that satisfy a test, and the cursor after them. The test admits no line break. -/
def takeWhile (c : Cursor) (test : Char → Bool) : List Char × Cursor :=
  let taken := c.text.takeWhile test
  (taken, c.skip taken.length)

/-- The cursor after the characters that satisfy a test. -/
def dropWhile (c : Cursor) (test : Char → Bool) : Cursor := (c.takeWhile test).2

/-- Whether a document marker stands at the cursor: three hyphens or dots at the beginning of a
    line, with a gap after them. -/
def atMarker (c : Cursor) (mark : Char) : Bool :=
  c.column == 0 && [mark, mark, mark].isPrefixOf c.text && c.gapAt 3

/-- Whether any document marker stands at the cursor. -/
def atAnyMarker (c : Cursor) : Bool := c.atMarker '-' || c.atMarker '.'

end Cursor

/-- Skips comments and gaps up to the next token. The flag tells whether a simple key may begin
    there; a new line allows one outside of flow collections. Tabs are skipped only where no key may
    begin, and a byte order mark only at the beginning of a line, where it takes up a column. -/
def skipToToken (inFlow : Bool) : Nat → Bool → Cursor → Bool × Cursor
  | 0, allowed, c => (allowed, c)
  | fuel + 1, allowed, c =>
    match c.char? with
    | none => (allowed, c)
    | some ch =>
      let isMark := ch == '\ufeff' && c.column == 0
      if isMark || ch == ' ' || (ch == '\t' && (inFlow || !allowed)) then
        skipToToken inFlow fuel allowed (c.skip 1)
      else if ch == '#' then
        skipToToken inFlow fuel allowed (c.dropWhile fun ch => !isBreak ch)
      else if isBreak ch then skipToToken inFlow fuel (allowed || !inFlow) c.breakLine.2
      else (allowed, c)

end BoardLint.Yaml
