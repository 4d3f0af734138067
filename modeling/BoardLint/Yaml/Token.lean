import BoardLint.Yaml.Scalar

set_option autoImplicit false

/-! # YAML tokens

The tokens of a YAML text. Indentation becomes tokens of its own: a deeper column opens a block
collection and a lesser one closes it. Whether a scalar is the key of a mapping is known only at the
colon after it, and then the tokens for the key are put in front of it. -/

namespace BoardLint.Yaml

/-- How a scalar was written. -/
inductive Style where
  | plain
  | quoted
  | literal
  | folded
deriving DecidableEq, Repr

/-- A token of a YAML text. -/
inductive Token where
  | documentStart | documentEnd
  | version (major minor : Nat)
  | tagHandle (handle address : String)
  | blockSequenceStart | blockMappingStart | blockEnd
  | flowSequenceStart | flowSequenceEnd | flowMappingStart | flowMappingEnd
  | blockEntry | flowEntry | key | value
  | alias (name : String)
  | anchor (name : String)
  | tag (handle suffix : String)
  | scalar (text : String) (style : Style)
deriving DecidableEq, Repr

/-- A place where a key without a mark may have begun. -/
structure SimpleKey where
  /-- The number of tokens in front of it. -/
  position : Nat
  /-- Whether it has to be a key, because it begins a line of a block mapping. -/
  required : Bool
  line : Nat
  column : Nat
  index : Nat
deriving Repr

/-- The state of the scanner. The tokens are in reverse order; there is one possible key for every
    flow collection that is open and one for the block around them. -/
structure Scanner where
  cursor : Cursor
  tokens : List Token
  indent : Int
  indents : List Int
  flow : Nat
  keyAllowed : Bool
  keys : List (Option SimpleKey)

namespace Scanner

/-- The state at the beginning of a text. -/
def start (text : List Char) : Scanner :=
  ⟨Cursor.ofText text, [], -1, [], 0, true, [none]⟩

/-- Adds a token. -/
def push (s : Scanner) (t : Token) : Scanner := { s with tokens := t :: s.tokens }

/-- Puts a token behind the first `position` tokens. -/
def insert (s : Scanner) (position : Nat) (t : Token) : Scanner :=
  let later := s.tokens.length - position
  { s with tokens := s.tokens.take later ++ t :: s.tokens.drop later }

/-- Moves on by `n` characters. -/
def advance (s : Scanner) (n : Nat) : Scanner := { s with cursor := s.cursor.skip n }

/-- Allows or forbids a simple key at the next token. -/
def allowKey (s : Scanner) (allowed : Bool) : Scanner := { s with keyAllowed := allowed }

/-! ## Indentation -/

/-- Opens a block collection when a column is deeper than the indentation. The token is put behind
    the first `position` tokens. -/
def roll (s : Scanner) (column : Nat) (position : Nat) (t : Token) : Scanner :=
  if s.flow == 0 && s.indent < column then
    { s.insert position t with indent := column, indents := s.indent :: s.indents }
  else s

/-- Closes the block collections that are deeper than a column. -/
def unrollTo (column : Int) : Nat → Scanner → Scanner
  | 0, s => s
  | fuel + 1, s =>
    if s.indent > column then
      unrollTo column fuel
        { s.push .blockEnd with indent := s.indents.headD (-1), indents := s.indents.tail }
    else s

/-- Closes the block collections that are deeper than a column, outside of flow collections. -/
def unroll (s : Scanner) (column : Int) : Scanner :=
  if s.flow == 0 then unrollTo column (s.indents.length + 1) s else s

/-! ## Simple keys -/

/-- Gives up the possible key of the innermost collection, which is refused when it was required. -/
def dropKey? (s : Scanner) : Option Scanner :=
  match s.keys with
  | some k :: rest => if k.required then none else some { s with keys := none :: rest }
  | _ => some s

/-- Notes that a key may begin here. -/
def saveKey? (s : Scanner) : Option Scanner :=
  if s.keyAllowed then
    s.dropKey?.map fun s =>
      let key : SimpleKey := {
        position := s.tokens.length
        required := s.flow == 0 && s.indent == s.cursor.column
        line := s.cursor.line
        column := s.cursor.column
        index := s.cursor.index }
      { s with keys := some key :: s.keys.tail }
  else some s

/-- A key ends on its line and within 1024 characters. One that was required is refused. -/
def checkKey? (c : Cursor) : Option SimpleKey → Option (Option SimpleKey)
  | none => some none
  | some k =>
    if k.line < c.line || k.index + 1024 < c.index then if k.required then none else some none
    else some (some k)

/-- Gives up the possible keys that cannot be keys any more. -/
def expireKeys? (s : Scanner) : Option Scanner :=
  (s.keys.mapM (checkKey? s.cursor)).map fun keys => { s with keys := keys }

/-! ## Collections and marks -/

/-- Opens a flow collection. -/
def openFlow? (s : Scanner) (t : Token) : Option Scanner :=
  s.saveKey?.map fun s =>
    ({ s with flow := s.flow + 1, keys := none :: s.keys }.allowKey true |>.advance 1).push t

/-- Closes a flow collection. -/
def closeFlow? (s : Scanner) (t : Token) : Option Scanner :=
  s.dropKey?.map fun s =>
    let s := if s.flow == 0 then s else { s with flow := s.flow - 1, keys := s.keys.tail }
    ((s.allowKey false).advance 1).push t

/-- A comma between the items of a flow collection. -/
def flowEntry? (s : Scanner) : Option Scanner :=
  s.dropKey?.map fun s => ((s.allowKey true).advance 1).push .flowEntry

/-- The hyphen of an item of a block sequence. -/
def blockEntry? (s : Scanner) : Option Scanner :=
  if s.flow == 0 && !s.keyAllowed then none
  else
    (s.roll s.cursor.column s.tokens.length .blockSequenceStart).dropKey?.map fun s =>
      ((s.allowKey true).advance 1).push .blockEntry

/-- The question mark of a key. -/
def key? (s : Scanner) : Option Scanner :=
  if s.flow == 0 && !s.keyAllowed then none
  else
    (s.roll s.cursor.column s.tokens.length .blockMappingStart).dropKey?.map fun s =>
      ((s.allowKey (s.flow == 0)).advance 1).push .key

/-- The colon of a value. A possible key before it becomes one. -/
def value? (s : Scanner) : Option Scanner :=
  match s.keys with
  | some k :: rest =>
    let s := (s.insert k.position .key).roll k.column k.position .blockMappingStart
    some (({ s with keys := none :: rest }.allowKey false |>.advance 1).push .value)
  | _ =>
    if s.flow == 0 && !s.keyAllowed then none
    else
      let s := s.roll s.cursor.column s.tokens.length .blockMappingStart
      some (((s.allowKey (s.flow == 0)).advance 1).push .value)

/-- A document marker. -/
def marker? (s : Scanner) (t : Token) : Option Scanner :=
  (s.unroll (-1)).dropKey?.map fun s => ((s.allowKey false).advance 3).push t

/-! ## Directives -/

/-- A decimal number of at most nine digits. -/
def shortNat? (digits : List Char) : Option Nat :=
  if digits.length > 9 then none else Text.nat? digits

/-- A character of a tag handle or an anchor. -/
def isNameChar (c : Char) : Bool := Text.isAsciiWord c || c == '-'

/-- A character of a tag that is given in full; one that is not has no comma and no brackets. -/
def isTagChar (c : Char) : Bool :=
  isNameChar c || ";/?:@&=+$.!~*'()%,[]".toList.contains c

/-- The bytes that a tag gives by their number, read as text; other characters stand for
    themselves. -/
def decodeTag? (text : List Char) : Option String :=
  let rec bytes? : List Char → Option (List UInt8)
    | [] => some []
    | '%' :: a :: b :: rest => do
      let high ← Text.hexValue? a
      let low ← Text.hexValue? b
      some ((high * 16 + low).toUInt8 :: (← bytes? rest))
    | c :: rest =>
      if c == '%' then none
      else (bytes? rest).map fun bs => (String.singleton c).toUTF8.toList ++ bs
  (bytes? text).bind fun bs => String.fromUTF8? ⟨bs.toArray⟩

/-- The version that a directive gives, and the rest of its line. -/
def versionDirective? (line : List Char) : Option (Token × List Char) :=
  let (major, rest) := line.span Char.isDigit
  match rest with
  | '.' :: rest =>
    let (minor, rest) := rest.span Char.isDigit
    do some (.version (← shortNat? major) (← shortNat? minor), rest)
  | _ => none

/-- The handle and the address that a directive gives, and the rest of its line. The address may
    give its bytes by their number. -/
def handleDirective? (line : List Char) : Option (Token × List Char) :=
  let (handle, rest) := line.span fun c => !isSpace c
  let (address, rest) := (rest.dropWhile isSpace).span isTagChar
  let isHandle := handle == ['!'] ||
    (handle.head? == some '!' && handle.getLast? == some '!' && handle.length > 1 &&
      (handle.drop 1).dropLast.all isNameChar)
  if isHandle && !address.isEmpty && (rest.isEmpty || rest.head?.any isSpace) then
    (decodeTag? address).map fun address => (.tagHandle (String.ofList handle) address, rest)
  else none

/-- The directive of a line without its percent sign. A comment may follow. -/
def directive? (line : List Char) : Option Token := do
  let (name, rest) := line.span isNameChar
  let value := rest.dropWhile isSpace
  let (token, rest) ←
    if rest.length == value.length then none
    else if name == "YAML".toList then versionDirective? value
    else if name == "TAG".toList then handleDirective? value
    else none
  match rest.dropWhile isSpace with
  | [] => some token
  | c :: _ => if c == '#' then some token else none

/-- A directive at the beginning of a line. -/
def scanDirective? (s : Scanner) : Option Scanner := do
  let s ← (s.unroll (-1)).dropKey?
  let (line, c) := s.cursor.takeWhile fun ch => !isBreak ch
  let t ← directive? (line.drop 1)
  some (({ s with cursor := c }.allowKey false).push t)

/-! ## Anchors, aliases and tags -/

/-- The name of an anchor or alias after its mark. -/
def scanName? (c : Cursor) : Option (String × Cursor) :=
  let (name, c) := c.takeWhile isNameChar
  let ends := c.gapAt 0 || c.satisfies fun ch =>
    ch.toNat == 0x60 || "?:,]\x7d%@".toList.contains ch
  if name.isEmpty || !ends then none else some (String.ofList name, c)

/-- An anchor or alias. -/
def named? (s : Scanner) (t : String → Token) : Option Scanner := do
  let s ← s.saveKey?
  let (name, c) ← scanName? (s.cursor.skip 1)
  some (({ s with cursor := c }.allowKey false).push (t name))

/-- The handle and the suffix of a tag that is not given in full. -/
def splitTag (body : List Char) : List Char × List Char :=
  let name := body.takeWhile isNameChar
  match body.drop name.length with
  | '!' :: suffix => ('!' :: name ++ ['!'], suffix)
  | _ => (['!'], body)

/-- A tag. A lone exclamation mark is a tag of its own. Inside flow collections a tag may end with a
    comma. -/
def tag? (s : Scanner) : Option Scanner := do
  let s ← s.saveKey?
  let c := s.cursor.skip 1
  let (t, c) ←
    if c.sees '<' then do
      let (body, c) := (c.skip 1).takeWhile isTagChar
      let full ← decodeTag? body
      if c.sees '>' && !body.isEmpty then some (Token.tag "" full, c.skip 1) else none
    else do
      let (body, c) := c.takeWhile fun ch => isTagChar ch && !",[]".toList.contains ch
      let (handle, suffix) := splitTag body
      let suffix' ← decodeTag? suffix
      if suffix.isEmpty then
        if handle.length > 1 then none else some (Token.tag "" "!", c)
      else some (Token.tag (String.ofList handle) suffix', c)
  if c.gapAt 0 || (s.flow > 0 && c.sees ',') then
    some (({ s with cursor := c }.allowKey false).push t)
  else none

/-! ## Scalars -/

/-- A quoted scalar. -/
def quoted? (s : Scanner) (single : Bool) : Option Scanner := do
  let s ← s.saveKey?
  let c := s.cursor.skip 1
  let (text, c) ← scanQuoted? single (c.text.length + 1) [] c
  some (({ s with cursor := c }.allowKey false).push (.scalar (String.ofList text) .quoted))

/-- A block scalar. -/
def block? (s : Scanner) (literal : Bool) : Option Scanner := do
  let s ← s.dropKey?
  let (text, c) ← scanBlock? literal s.indent (s.cursor.skip 1)
  let style := if literal then Style.literal else .folded
  some (({ s with cursor := c }.allowKey true).push (.scalar (String.ofList text) style))

/-- A plain scalar. After a line break a key may follow. -/
def plain? (s : Scanner) : Option Scanner := do
  let s ← s.saveKey?
  let c := s.cursor
  let (text, broken, c) ←
    scanPlain? (s.flow > 0) (s.indent + 1).toNat (c.text.length + 1) [] Gap.none c
  some (({ s with cursor := c }.allowKey broken).push (.scalar (String.ofList text) .plain))

/-! ## The scanner -/

/-- Whether a plain scalar can begin at the cursor. -/
def beginsPlain (s : Scanner) : Bool :=
  match s.cursor.char? with
  | none => false
  | some ch =>
    let special := "-?:,[]\x7b\x7d#&*!|>\"%@".toList.contains ch || ch.toNat == 0x27 ||
      ch.toNat == 0x60
    (!isGap ch && !special) ||
      (ch == '-' && !(s.cursor.skip 1).satisfies isSpace) ||
      (s.flow == 0 && (ch == '?' || ch == ':') && !s.cursor.gapAt 1)

/-- The token at the cursor, which stands at no gap. -/
def fetch? (s : Scanner) : Option Scanner :=
  let c := s.cursor
  if c.column == 0 && c.sees '%' then s.scanDirective?
  else if c.atMarker '-' then s.marker? .documentStart
  else if c.atMarker '.' then s.marker? .documentEnd
  else if c.sees '[' then s.openFlow? .flowSequenceStart
  else if c.sees '\x7b' then s.openFlow? .flowMappingStart
  else if c.sees ']' then s.closeFlow? .flowSequenceEnd
  else if c.sees '\x7d' then s.closeFlow? .flowMappingEnd
  else if c.sees ',' then s.flowEntry?
  else if c.sees '-' && c.gapAt 1 then s.blockEntry?
  else if c.sees '?' && (s.flow > 0 || c.gapAt 1) then s.key?
  else if c.sees ':' && (s.flow > 0 || c.gapAt 1) then s.value?
  else if c.sees '*' then s.named? .alias
  else if c.sees '&' then s.named? .anchor
  else if c.sees '!' then s.tag?
  else if c.sees '|' && s.flow == 0 then s.block? true
  else if c.sees '>' && s.flow == 0 then s.block? false
  else if c.satisfies fun ch => ch.toNat == 0x27 then s.quoted? true
  else if c.sees '"' then s.quoted? false
  else if s.beginsPlain then s.plain?
  else none

/-- The tokens up to the end of the text, in order. Every token takes at least one character, so the
    length of the text is fuel enough. -/
def run? : Nat → Scanner → Option (List Token)
  | fuel, s =>
    let (allowed, c) := skipToToken (s.flow > 0) s.cursor.text.length s.keyAllowed s.cursor
    match { s with keyAllowed := allowed, cursor := c }.expireKeys?, fuel with
    | none, _ => none
    | some s, fuel =>
      if s.cursor.text.isEmpty then
        ({ s with cursor := { s.cursor with line := s.cursor.line + 1 } }.unroll (-1)).dropKey?.map
          fun (s : Scanner) => s.tokens.reverse
      else
        match (s.unroll s.cursor.column).fetch?, fuel with
        | none, _ => none
        | some _, 0 => none
        | some s, fuel + 1 => run? fuel s

end Scanner

/-- The tokens of a YAML text. -/
def tokens? (text : List Char) : Option (List Token) :=
  if text.all isAllowed then Scanner.run? (text.length + 1) (Scanner.start text) else none

end BoardLint.Yaml
