import BoardLint.Regex.Automaton
import BoardLint.Regex.Class
import BoardLint.Unicode.Letter

set_option autoImplicit false

/-! # Reading regular expressions

Regular expressions without look-around and references. The reader goes through the text once with a
stack of open groups, and counts how deep their notation is nested. A counted repetition such as
`x{2,5}` has to be complete, so a lone brace is refused; `parse?` tries such a text a second time
with those braces escaped. -/

namespace BoardLint.Regex

open Unicode (CodeSet)

/-! ## Parts of a group -/

/-- A part of a sequence: a pattern, or switches that are set from there on and have the empty
    pattern. -/
structure Part where
  pattern : Pattern
  /-- How deep the notation of the part is nested. -/
  depth : Nat
  isSwitches : Bool
deriving Repr

/-- What has been read of a group: the earlier alternatives and the parts of the last one, both in
    reverse order. -/
structure Level where
  alternatives : List Part
  parts : List Part
deriving Repr

namespace Level

/-- A group of which nothing has been read. -/
def start : Level := ⟨[], []⟩

/-- Adds a part at the end. -/
def push (l : Level) (p : Part) : Level := { l with parts := p :: l.parts }

/-- One level more than the deepest of several parts. -/
def around (parts : List Part) : Nat := (parts.map (·.depth)).foldl max 0 + 1

/-- The parts as one; more than one of them are a sequence. -/
def sequence (l : Level) : Part :=
  match l.parts with
  | [] => ⟨.empty, 0, false⟩
  | [p] => p
  | parts => ⟨.ofRow (parts.reverse.map (·.pattern)), around parts, false⟩

/-- Begins the next alternative. -/
def nextAlternative (l : Level) : Level := ⟨l.sequence :: l.alternatives, []⟩

/-- The whole group as one part; more than one alternative are a choice. -/
def choice (l : Level) : Part :=
  match l.alternatives with
  | [] => l.sequence
  | earlier =>
    let all := l.sequence :: earlier
    ⟨.oneOf (all.reverse.map (·.pattern)), around all, false⟩

/-- Repeats the last part, which has to be a pattern. -/
def repeatLast? (l : Level) (least : Nat) (most : Option Nat) (greedy : Bool) : Option Level :=
  match l.parts with
  | p :: parts =>
    if p.isSwitches then none
    else
      some { l with parts := ⟨.repeated least most greedy p.pattern, p.depth + 1, false⟩ :: parts }
  | [] => none

end Level

/-! ## Groups -/

/-- How a group begins. -/
inductive Opening where
  /-- A group that captures, with its name. -/
  | capture (name : Option String)
  /-- A group with switches inside it. -/
  | plain (mode : Mode)
  /-- Switches for the rest of the enclosing group. -/
  | switches (mode : Mode)
deriving DecidableEq, Repr

/-- The letters of the switches up to a colon or a closing parenthesis. -/
def scanSwitches? (seen : List Char) : List Char → Option (List Char × List Char)
  | [] => none
  | c :: text =>
    if c == ':' || c == ')' then
      if seen.head? == some '-' then none else some (seen.reverse, c :: text)
    else if seen.contains c || !"imsUuRx-".toList.contains c then none
    else scanSwitches? (c :: seen) text

/-- The mode after switches; a hyphen turns off those that follow it. -/
def Mode.switched (m : Mode) (letters : List Char) : Mode :=
  let (on, off) := letters.span (· != '-')
  let now (c : Char) (before : Bool) : Bool := (before || on.contains c) && !off.contains c
  { spaced := now 'x' m.spaced
    wide := now 'u' m.wide
    folded := now 'i' m.folded
    lines := now 'm' m.lines
    dotAll := now 's' m.dotAll
    crlf := now 'R' m.crlf
    swapped := now 'U' m.swapped }

/-- The name of a group after its opening angle bracket: it begins with a letter or an underscore.
    -/
def scanName? (text : List Char) : Option (String × List Char) :=
  match text.span (· != '>') with
  | (first :: more, _ :: rest) =>
    let isFirst := first == '_' || Unicode.isLetter first
    let isMore (c : Char) :=
      c == '_' || c == '.' || c == '[' || c == ']' || Unicode.isLetterOrNumber c
    if isFirst && more.all isMore then some (String.ofList (first :: more), rest) else none
  | _ => none

/-- The beginning of a group after its parenthesis. -/
def scanOpening? (m : Mode) (text : List Char) : Option (Opening × List Char) :=
  let named (text : List Char) :=
    (scanName? text).map fun (name, rest) => (Opening.capture (some name), rest)
  match m.skip text with
  | '?' :: 'P' :: '<' :: rest => named rest
  | '?' :: '<' :: '=' :: _ => none
  | '?' :: '<' :: '!' :: _ => none
  | '?' :: '<' :: rest => named rest
  | '?' :: rest =>
    match scanSwitches? [] rest with
    | some (letters, ':' :: rest) => some (.plain (m.switched letters), rest)
    | some (letters, ')' :: rest) =>
      if letters.isEmpty then none else some (.switches (m.switched letters), rest)
    | _ => none
  | rest => some (.capture none, rest)

/-! ## Repetitions -/

/-- Decimal digits, in reverse order before `done`, and the rest of the text. -/
def scanDigits (m : Mode) : Nat → List Char → List Char → List Char × List Char
  | 0, done, text => (done.reverse, text)
  | fuel + 1, done, text =>
    match text with
    | c :: rest => if c.isDigit then scanDigits m fuel (c :: done) (m.skip rest)
      else (done.reverse, text)
    | [] => (done.reverse, [])

/-- A decimal number of 32 bits, with blanks around it. -/
def scanCount? (m : Mode) (text : List Char) : Option (Nat × List Char) :=
  let (digits, rest) := scanDigits m text.length [] (text.dropWhile Text.isBlank)
  let value := Text.digitsValue digits
  if digits.isEmpty || value ≥ Nat.pow 2 32 then none
  else some (value, m.skip (rest.dropWhile Text.isBlank))

/-- The bounds of a counted repetition after its opening brace, in order. -/
def scanBounds? (m : Mode) (text : List Char) : Option ((Nat × Option Nat) × List Char) := do
  let (least, text) ← scanCount? m (m.skip text)
  match text with
  | '\x7d' :: rest => some ((least, some least), rest)
  | ',' :: text =>
    match m.skip text with
    | '\x7d' :: rest => some ((least, none), rest)
    | text =>
      let (most, text) ← scanCount? m text
      match text with
      | '\x7d' :: rest => if least ≤ most then some ((least, some most), rest) else none
      | _ => none
  | _ => none

/-- Whether a question mark makes a repetition reluctant, and the text after it. -/
def scanReluctant : List Char → Bool × List Char
  | '?' :: rest => (true, rest)
  | text => (false, text)

/-! ## The reader -/

/-- The state of the reader: the group that is read, those around it with their modes and numbers,
    the mode, the names of the groups so far and how many groups capture. -/
structure Reading where
  level : Level
  outer : List (Level × Mode × Option Nat)
  mode : Mode
  names : List String
  captures : Nat

/-- The pattern of a literal character, as the mode takes it. -/
def Mode.literal (m : Mode) (c : Char) : Pattern :=
  let folds := m.folded && if m.wide then Unicode.hasCase c.toNat else c.isAlpha
  if folds then .ofSet m.wide (m.fold (.single c.toNat)) else .ofChar c

/-- The characters that a dot stands for. -/
def Mode.dot (m : Mode) : CodeSet :=
  if m.dotAll then .all
  else if m.crlf then (CodeSet.ofRanges [(10, 10), (13, 13)]).complement
  else (CodeSet.single 10).complement

/-- The part of an atom. A byte beyond ASCII is refused where sets are not wide. -/
def Mode.part? (m : Mode) : Atom → Option Part
  | .literal c isByte =>
    if !m.wide && isByte && c.toNat ≥ 128 then none else some ⟨m.literal c, 0, false⟩
  | .set s => some ⟨.ofSet m.wide s, 0, false⟩
  | .look l => some ⟨.look l, 0, false⟩

/-- The part of a single character, an escape or a set, and the rest of the text. -/
def scanAtom? (m : Mode) : List Char → Option (Part × List Char)
  | [] => none
  | '\\' :: text => do
    let (atom, rest) ← scanEscape? m text
    some (← m.part? atom, rest)
  | '[' :: text =>
    (scanSet? m text).map fun (s, rest) => (⟨.ofSet m.wide s.set, s.depth, false⟩, rest)
  | c :: text =>
    let look (l : Look) : Option (Part × List Char) := some (⟨.look l, 0, false⟩, text)
    if c == '^' then look (if m.lines then .lineStart m.crlf else .textStart)
    else if c == '$' then look (if m.lines then .lineEnd m.crlf else .textEnd)
    else if c == '.' then if m.wide then some (⟨.ofSet true m.dot, 0, false⟩, text) else none
    else some (⟨m.literal c, 0, false⟩, text)

/-- The state after the end of a group. -/
def Reading.leave? (r : Reading) : Option Reading :=
  match r.outer with
  | [] => none
  | (level, mode, index) :: outer =>
    let inner := r.level.choice
    let pattern := match index with
      | some i => .group i inner.pattern
      | none => inner.pattern
    some { r with
      level := level.push ⟨pattern, inner.depth + 1, false⟩, outer := outer, mode := mode }

/-- One step of the reader, and the rest of the text. -/
def step? (r : Reading) (c : Char) (text : List Char) : Option (Reading × List Char) :=
  let enter (mode : Mode) (index : Option Nat) : Reading :=
    { r with level := .start, outer := (r.level, r.mode, index) :: r.outer, mode := mode }
  let repeated (least : Nat) (most : Option Nat) (rest : List Char) :=
    let (reluctant, rest) := scanReluctant rest
    (r.level.repeatLast? least most (reluctant == r.mode.swapped)).map fun level =>
      ({ r with level := level }, rest)
  if c == '(' then
    match scanOpening? r.mode text with
    | some (.capture name, rest) =>
      let names := name.toList
      let index := r.captures + 1
      if names.any r.names.contains then none
      else
        some ({ enter r.mode (some index) with names := names ++ r.names, captures := index }, rest)
    | some (.plain mode, rest) => some (enter mode none, rest)
    | some (.switches mode, rest) =>
      some ({ r with level := r.level.push ⟨.empty, 0, true⟩, mode := mode }, rest)
    | none => none
  else if c == ')' then r.leave?.map fun r => (r, text)
  else if c == '|' then some ({ r with level := r.level.nextAlternative }, text)
  else if c == '?' then repeated 0 (some 1) text
  else if c == '*' then repeated 0 none text
  else if c == '+' then repeated 1 none text
  else if c == '\x7b' then
    match scanBounds? r.mode text with
    | some ((least, most), rest) => repeated least most (r.mode.skip rest)
    | none => none
  else
    (scanAtom? r.mode (c :: text)).map fun (p, rest) =>
      ({ r with level := r.level.push p }, rest)

/-- Reads to the end of the text. Every step shortens it, so its length is fuel enough. -/
def read? : Nat → Reading → List Char → Option Part
  | fuel, r, text =>
    match r.mode.skip text, fuel with
    | [], _ => if r.outer.isEmpty then some r.level.choice else none
    | _ :: _, 0 => none
    | c :: rest, fuel + 1 =>
      match step? r c rest with
      | some (r, rest) => read? fuel r rest
      | none => none

/-- How deep a regular expression may be nested. -/
def maxDepth : Nat := 250

/-- The pattern of a regular expression, if it is nested no deeper and its automaton is no larger
    than is allowed. -/
def compile? (text : List Char) : Option Pattern := do
  let p ← read? text.length ⟨.start, [], .initial, [], 0⟩ text
  if p.depth ≤ maxDepth && p.pattern.fits then some p.pattern else none

/-! ## Lone braces -/

/-- Whether the text after an opening brace closes it as a count, and the characters that decide it,
    in reverse order. -/
def countAhead (seen : List Char) (comma : Bool) : List Char → Bool × List Char × List Char
  | [] => (false, seen, [])
  | c :: text =>
    let now := c :: seen
    if c == ',' then
      if comma || seen.isEmpty then (false, now, text) else countAhead now true text
    else if c.isDigit then countAhead now comma text
    else (c == '\x7d' && !seen.isEmpty, now, text)

/-- Escapes the braces that do not begin a count. What was looked at to decide so is copied as it
    is. -/
def escapeBraces : Nat → List Char → List Char
  | 0, _ => []
  | _, [] => []
  | fuel + 1, '\\' :: text =>
    match text with
    | c :: rest => '\\' :: c :: escapeBraces fuel rest
    | [] => []
  | fuel + 1, '\x7b' :: text =>
    let (isCount, seen, rest) := countAhead [] false text
    (if isCount then ['\x7b'] else ['\\', '\x7b']) ++ seen.reverse ++ escapeBraces fuel rest
  | fuel + 1, c :: text => c :: escapeBraces fuel text

/-- A regular expression that has to match a whole text. -/
def anchored (text : List Char) : List Char := "^(?:".toList ++ text ++ ")$".toList

/-- The pattern of a regular expression that matches a whole text, in which a brace may also stand
    for itself. -/
def parse? (text : List Char) : Option Pattern :=
  let text := anchored text
  match compile? text with
  | some p => some p
  | none => compile? (escapeBraces text.length text)

end BoardLint.Regex
