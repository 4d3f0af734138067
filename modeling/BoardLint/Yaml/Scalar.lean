import BoardLint.Yaml.Cursor

set_option autoImplicit false

/-! # YAML scalars

The three ways to write a scalar: plain, between quotes, and as an indented block. Inside a scalar a
line break counts as a space, and each further break as itself; a literal block keeps them all. -/

namespace BoardLint.Yaml

/-! ## Folding -/

/-- What stands between two parts of a scalar: blanks on a line, or line breaks. -/
structure Gap where
  /-- Whether a line break was seen. -/
  broken : Bool
  blanks : List Char
  first : List Char
  further : List Char
deriving Repr

namespace Gap

/-- No gap. -/
def none : Gap := ⟨false, [], [], []⟩

/-- The characters that a gap stands for: one break is a space, more breaks are those after the
    first. -/
def fold (g : Gap) : List Char :=
  if !g.broken then g.blanks
  else if g.first.head? == some '\n' then
    if g.further.isEmpty then [' '] else g.further
  else g.first ++ g.further

/-- The gap with one more line break. -/
def withBreak (g : Gap) (b : List Char) : Gap :=
  if g.broken then { g with further := g.further ++ b } else ⟨true, [], b, []⟩

end Gap

/-- Reads the gap at the cursor. A tab in the indentation of a plain scalar, which is `indent`
    columns wide, is refused. -/
def scanGap? (indent : Nat) : Nat → Gap → Cursor → Option (Gap × Cursor)
  | 0, g, c => some (g, c)
  | fuel + 1, g, c =>
    match c.char? with
    | Option.none => some (g, c)
    | some ch =>
      if isSpace ch then
        if g.broken && c.column < indent && ch == '\t' then Option.none
        else if g.broken then scanGap? indent fuel g (c.skip 1)
        else scanGap? indent fuel { g with blanks := g.blanks ++ [ch] } (c.skip 1)
      else if isBreak ch then
        let (b, c) := c.breakLine
        scanGap? indent fuel (g.withBreak b) c
      else some (g, c)

/-! ## Quoted scalars -/

/-- The character of an escape with a letter. -/
def escaped? (ch : Char) : Option Char :=
  match ch with
  | '0' => some '\x00'
  | 'a' => some '\x07'
  | 'b' => some '\x08'
  | 't' => some '\t'
  | '\t' => some '\t'
  | 'n' => some '\n'
  | 'v' => some '\x0b'
  | 'f' => some '\x0c'
  | 'r' => some '\r'
  | 'e' => some '\x1b'
  | ' ' => some ' '
  | '"' => some '"'
  | '/' => some '/'
  | '\\' => some '\\'
  | 'N' => some '\u0085'
  | '_' => some '\u00a0'
  | 'L' => some '\u2028'
  | 'P' => some '\u2029'
  | _ => none

/-- The number of hexadecimal digits after the letter of an escape. -/
def hexLength? (ch : Char) : Option Nat :=
  match ch with
  | 'x' => some 2
  | 'u' => some 4
  | 'U' => some 8
  | _ => none

/-- The character of an escape after its backslash, and the length of the escape without it. -/
def scanEscape? (text : List Char) : Option (Char × Nat) :=
  match text with
  | [] => none
  | ch :: rest =>
    match hexLength? ch with
    | none => (escaped? ch).map fun c => (c, 1)
    | some n => do
      if rest.length < n then none
      let value ← (rest.take n).foldlM (fun v d => (Text.hexValue? d).map (v * 16 + ·)) 0
      if (0xD800 ≤ value && value < 0xE000) || value > 0x10FFFF then none
      else some (Char.ofNat value, n + 1)

/-- The text of a quoted scalar after its opening quote, in reverse order before `done`, and the
    cursor after the closing one. -/
def scanQuoted? (single : Bool) : Nat → List Char → Cursor → Option (List Char × Cursor)
  | 0, _, _ => none
  | fuel + 1, done, c =>
    if c.atAnyMarker then none
    else
      match c.text with
      | [] => none
      | ch :: rest =>
        if isGap ch then
          match scanGap? 0 c.text.length Gap.none c with
          | some (g, c) => scanQuoted? single fuel (g.fold.reverse ++ done) c
          | none => none
        else if single then
          if ch.toNat == 0x27 then
            if (rest.head?.map Char.toNat) == some 0x27 then
              scanQuoted? single fuel (ch :: done) (c.skip 2)
            else some (done.reverse, c.skip 1)
          else scanQuoted? single fuel (ch :: done) (c.skip 1)
        else if ch == '"' then some (done.reverse, c.skip 1)
        else if ch == '\\' then
          if (rest.head?.map isBreak).getD false then
            let (_, c) := (c.skip 1).breakLine
            match scanGap? 0 c.text.length ⟨true, [], [], []⟩ c with
            | some (g, c) => scanQuoted? single fuel (g.fold.reverse ++ done) c
            | none => none
          else
            match scanEscape? rest with
            | some (e, n) => scanQuoted? single fuel (e :: done) (c.skip (n + 1))
            | none => none
        else scanQuoted? single fuel (ch :: done) (c.skip 1)

/-! ## Plain scalars -/

/-- Whether a plain scalar ends in front of the cursor. -/
def endsPlain (inFlow : Bool) (c : Cursor) : Bool :=
  (c.sees ':' && c.gapAt 1) || (inFlow && c.satisfies fun ch => ",[]\x7b\x7d".toList.contains ch)

/-- Whether a colon stands inside a flow collection where it cannot. -/
def misplacedColon (inFlow : Bool) (c : Cursor) : Bool :=
  inFlow && c.sees ':' && (c.skip 1).satisfies fun ch => ",?[]\x7b\x7d".toList.contains ch

/-- The characters of a plain scalar up to a gap, in reverse order before `done`; none when a colon
    is misplaced. -/
def scanPlainPart? (inFlow : Bool) : Nat → List Char → Cursor → Option (List Char × Cursor)
  | 0, done, c => some (done, c)
  | fuel + 1, done, c =>
    match c.char? with
    | none => some (done, c)
    | some ch =>
      if isGap ch then some (done, c)
      else if misplacedColon inFlow c then none
      else if endsPlain inFlow c then some (done, c)
      else scanPlainPart? inFlow fuel (ch :: done) (c.skip 1)

/-- The text of a plain scalar, whether a line break follows it, and the cursor after it. Its
    further lines are indented by at least `indent` columns. -/
def scanPlain? (inFlow : Bool) (indent : Nat) :
    Nat → List Char → Gap → Cursor → Option (List Char × Bool × Cursor)
  | 0, _, _, _ => none
  | fuel + 1, done, g, c =>
    if c.atAnyMarker || c.sees '#' then some (done.reverse, g.broken, c)
    else
      match scanPlainPart? inFlow c.text.length [] c with
      | none => none
      | some ([], c) => some (done.reverse, g.broken, c)
      | some (part, c) =>
        let done := part ++ g.fold.reverse ++ done
        if c.satisfies isGap then
          match scanGap? indent c.text.length Gap.none c with
          | none => none
          | some (g, c) =>
            if !inFlow && c.column < indent then some (done.reverse, g.broken, c)
            else scanPlain? inFlow indent fuel done g c
        else some (done.reverse, false, c)

/-! ## Block scalars -/

/-- What becomes of the line breaks at the end of a block. -/
inductive Chomping where
  | strip
  | clip
  | keep
deriving DecidableEq, Repr

/-- The chomping and the indentation given after the mark of a block. -/
def scanHeader? (c : Cursor) : Option (Chomping × Option Nat × Cursor) :=
  let chomp? (c : Cursor) : Option Chomping :=
    if c.sees '+' then some .keep else if c.sees '-' then some .strip else none
  let digit? (c : Cursor) : Option Nat :=
    (c.char?.filter Char.isDigit).map fun ch => ch.toNat - '0'.toNat
  match chomp? c with
  | some chomping =>
    let c := c.skip 1
    match digit? c with
    | some 0 => none
    | some n => some (chomping, some n, c.skip 1)
    | none => some (chomping, none, c)
  | none =>
    match digit? c with
    | some 0 => none
    | some n =>
      let c := c.skip 1
      match chomp? c with
      | some chomping => some (chomping, some n, c.skip 1)
      | none => some (.clip, some n, c)
    | none => some (.clip, none, c)

/-- Skips blank lines in front of a line of a block: the breaks, the greatest column reached, and
    the cursor at the line. While the indentation is not known (zero), all spaces count to it; a tab
    in it is refused. -/
def scanBlankLines? (indent : Nat) : Nat → List Char → Nat → Cursor →
    Option (List Char × Nat × Cursor)
  | 0, breaks, widest, c => some (breaks, widest, c)
  | fuel + 1, breaks, widest, c =>
    let width := if indent == 0 then c.text.length else indent - c.column
    let spaces := (c.text.take width).takeWhile (· == ' ')
    let c := c.skip spaces.length
    let widest := max widest c.column
    if (indent == 0 || c.column < indent) && c.sees '\t' then none
    else if c.satisfies isBreak then
      let (b, c) := c.breakLine
      scanBlankLines? indent fuel (breaks ++ b) widest c
    else some (breaks, widest, c)

/-- The lines of a block from the one at the cursor on. `leading` is the break before the line,
    `trailing` those of the blank lines before it, and `blankBefore` whether the line before began
    with a blank. Returns the text and the last breaks. -/
def scanBlockLines? (literal : Bool) (indent : Nat) : Nat → List Char → List Char → List Char →
    Bool → Cursor → Option (List Char × List Char × List Char × Cursor)
  | 0, _, _, _, _, _ => none
  | fuel + 1, done, leading, trailing, blankBefore, c =>
    if c.column != indent || c.text.isEmpty then some (done, leading, trailing, c)
    else
      let blankNow := c.satisfies isSpace
      let joint : List Char :=
        if !literal && leading.head? == some '\n' && !blankBefore && !blankNow then
          if trailing.isEmpty then [' '] else []
        else leading
      let (line, c) := c.takeWhile fun ch => !isBreak ch
      let done := done ++ joint ++ trailing ++ line
      let (b, c) := c.breakLine
      match scanBlankLines? indent (c.text.length + 1) [] 0 c with
      | some (trailing, _, c) => scanBlockLines? literal indent fuel done b trailing blankNow c
      | none => none

/-- A block scalar after its mark. `outer` is the indentation around it, -1 at the top. -/
def scanBlock? (literal : Bool) (outer : Int) (c : Cursor) : Option (List Char × Cursor) := do
  let (chomping, increment, c) ← scanHeader? c
  let blanks := c.dropWhile isSpace
  let c := if blanks.sees '#' then blanks.dropWhile fun ch => !isBreak ch else blanks
  if !(c.text.isEmpty || c.satisfies isBreak) then none
  let (_, c) := c.breakLine
  let given := (increment.map fun n => (max outer 0).toNat + n).getD 0
  let (trailing, widest, c) ← scanBlankLines? given (c.text.length + 1) [] 0 c
  let indent := if given == 0 then max (max widest (outer + 1).toNat) 1 else given
  let (text, leading, trailing, c) ←
    scanBlockLines? literal indent (c.text.length + 1) [] [] trailing false c
  let text := match chomping with
    | .strip => text
    | .clip => text ++ leading
    | .keep => text ++ leading ++ trailing
  some (text, c)

end BoardLint.Yaml
