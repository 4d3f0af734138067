import BoardLint.Number.Literal
import BoardLint.Query.Expr

set_option autoImplicit false

/-! # Query tokens

The tokens of a query. Between braces words are label names and between brackets only durations and
a colon may stand, so the scanner keeps track of where it is. -/

namespace BoardLint.Query

/-! ## Keywords -/

/-- The words of the language that are neither operators nor aggregations. -/
inductive Keyword where
  | offset | by | without | on | ignoring | groupLeft | groupRight | bool | start | finish
deriving DecidableEq, Repr

/-- The text of a keyword. -/
def Keyword.text : Keyword → String
  | .offset => "offset"
  | .by => "by"
  | .without => "without"
  | .on => "on"
  | .ignoring => "ignoring"
  | .groupLeft => "group_left"
  | .groupRight => "group_right"
  | .bool => "bool"
  | .start => "start"
  | .finish => "end"

/-- The keywords. -/
def Keyword.all : List Keyword :=
  [.offset, .by, .without, .on, .ignoring, .groupLeft, .groupRight, .bool, .start, .finish]

/-- A token of a query. Words keep the text they were written with, because most of them can also
    name a metric or a label. -/
inductive Token where
  | openParen | closeParen | openBrace | closeBrace | openBracket | closeBracket
  | comma | colon | at | assign | regexMatch | regexMismatch
  /-- An operator made of signs. -/
  | sign (op : BinaryOp)
  /-- An operator made of letters. -/
  | wordOp (op : BinaryOp) (word : String)
  | aggregator (op : AggregateOp) (word : String)
  | keyword (k : Keyword) (word : String)
  | ident (word : String)
  /-- A word with a colon, which can only name a metric. -/
  | metricIdent (word : String)
  | number (value : Binary64)
  | duration (d : Duration)
  | text (value : String)
deriving DecidableEq, Repr

/-! ## Words -/

/-- A letter of ASCII or the underscore. -/
def isAlpha (c : Char) : Bool := c.isAlpha || c == '_'

/-- The token of a word outside braces. -/
def wordToken (word : List Char) : Token :=
  let text := String.ofList word
  let lower := String.ofList (word.map Char.toLower)
  if word.contains ':' then .metricIdent text
  else if lower == "inf" then .number (.infinite false)
  else if lower == "nan" then .number .nan
  else
    match [BinaryOp.or, .and, .unless, .atan2].find? fun op => op.text == lower with
    | some op => .wordOp op text
    | none =>
      match AggregateOp.all.find? fun op => op.text == lower with
      | some op => .aggregator op text
      | none =>
        match Keyword.all.find? fun k => k.text == lower with
        | some k => .keyword k text
        | none => .ident text

/-! ## Numbers and durations -/

/-- The value of an octal numeral of 63 bits. -/
def octal? (digits : List Char) : Option Nat :=
  if digits.all fun c => '0' ≤ c && c ≤ '7' then
    some (digits.foldl (fun n c => n * 8 + (c.toNat - '0'.toNat)) 0)
  else none

/-- The value of a hexadecimal numeral. -/
def hexadecimal? (digits : List Char) : Option Nat :=
  if digits.isEmpty then none
  else digits.foldlM (fun n c => (Text.hexValue? c).map (n * 16 + ·)) 0

/-- The value of a number. A leading zero makes it octal unless a point or a larger digit shows that
    it is not; octal and hexadecimal numbers have at most 63 bits. -/
def numberValue? (text : List Char) : Option Binary64 :=
  let small (n : Option Nat) := (n.filter (· < Nat.pow 2 63)).map Binary64.ofNat
  match text with
  | '0' :: c :: rest =>
    if c == 'x' || c == 'X' then small (hexadecimal? rest)
    else if (c :: rest).any fun d => d == '.' || d == '8' || d == '9' then
      Binary64.ofText? text
    else small (octal? (c :: rest))
  | _ => Binary64.ofText? text

/-- A sign at the beginning of a text, if there is one, and the rest of the text. -/
def scanSign : List Char → List Char × List Char
  | '+' :: rest => (['+'], rest)
  | '-' :: rest => (['-'], rest)
  | text => ([], text)

/-- An exponent at the beginning of a text, as far as it goes, and the rest of the text. -/
def scanExponent : List Char → List Char × List Char
  | [] => ([], [])
  | c :: text =>
    if c == 'e' || c == 'E' then
      let sign := scanSign text
      let digits := sign.2.span Char.isDigit
      (c :: sign.1 ++ digits.1, digits.2)
    else ([], c :: text)

/-- A point and the digits behind it, if there is one, and the rest of the text. -/
def scanPlaces (isDigit : Char → Bool) : List Char → List Char × List Char
  | '.' :: text => ('.' :: (text.span isDigit).1, (text.span isDigit).2)
  | text => ([], text)

/-- Digits with a point and an exponent, and the rest of the text. -/
def scanDigits (isDigit : Char → Bool) (text : List Char) : List Char × List Char :=
  let whole := text.span isDigit
  let places := scanPlaces isDigit whole.2
  let exponent := scanExponent places.2
  (whole.1 ++ places.1 ++ exponent.1, exponent.2)

/-- A digit of a hexadecimal number. -/
def isHexDigit (c : Char) : Bool := (Text.hexValue? c).isSome

/-- The longest text with the shape of a number, and the rest. -/
def scanNumber (text : List Char) : List Char × List Char :=
  match text with
  | '0' :: 'x' :: rest =>
    let digits := scanDigits isHexDigit rest
    ('0' :: 'x' :: digits.1, digits.2)
  | '0' :: 'X' :: rest =>
    let digits := scanDigits isHexDigit rest
    ('0' :: 'X' :: digits.1, digits.2)
  | _ => scanDigits Char.isDigit text

/-- The letter of a unit with an optional `s` after it, and the rest of the text. -/
def scanUnit? (units : List Char) (text : List Char) : Option (List Char × List Char) :=
  match text with
  | c :: rest =>
    if units.contains c then
      match rest with
      | 's' :: more => some ([c, 's'], more)
      | _ => some ([c], rest)
    else none
  | [] => none

/-- Further components of a duration, as long as digits follow, and the rest of the text. Years only
    stand in front. -/
def scanComponents? : Nat → List Char → Option (List Char × List Char)
  | 0, _ => none
  | fuel + 1, text =>
    match text.span Char.isDigit with
    | ([], text) => some ([], text)
    | (digits, text) => do
      let (unit, text) ← scanUnit? "smhdw".toList text
      let (more, text) ← scanComponents? fuel text
      some (digits ++ unit ++ more, text)

/-- The units of a duration after its first number; no word may follow directly. -/
def scanUnits? (text : List Char) : Option (List Char × List Char) := do
  let (unit, text) ← scanUnit? "smhdwy".toList text
  let (more, text) ← scanComponents? (text.length + 1) text
  if (text.head?.map Text.isAsciiWord).getD false then none
  else some (unit ++ more, text)

/-- A number or a duration, and the rest of the text. Between brackets it has to be a duration. -/
def scanQuantity? (onlyDuration : Bool) (text : List Char) : Option (Token × List Char) := do
  let (number, rest) := scanNumber text
  if (rest.head?.map fun c => isAlpha c || c == '.').getD false then
    let (units, rest) ← scanUnits? rest
    let d ← Duration.parse? (number ++ units)
    some (.duration d, rest)
  else if onlyDuration then none
  else
    let value ← numberValue? number
    some (.number value, rest)

/-! ## Strings -/

/-- The characters that may follow a backslash, besides the quote. -/
def isEscape (c : Char) : Bool := "abfnrtv\\01234567xuU".toList.contains c

/-- The raw text up to the closing quote, in reverse order before `done`, and the rest. -/
def scanText? (quote : Char) (done : List Char) : List Char → Option (List Char × List Char)
  | [] => none
  | '\\' :: c :: text =>
    if c == quote || isEscape c then scanText? quote (c :: '\\' :: done) text else none
  | c :: text =>
    if c == quote then some (done.reverse, text)
    else if c == '\\' then none
    else scanText? quote (c :: done) text

/-- A string after its opening quote, and the rest of the text. -/
def scanString? (quote : Char) (text : List Char) : Option (Token × List Char) :=
  (scanText? quote [] text).map fun (raw, rest) => (.text (String.ofList raw), rest)

/-! ## The scanner -/

/-- Where in a query the scanner is. -/
inductive Place where
  | outside
  | inBraces
  /-- Between brackets; the flag says whether a colon was seen. -/
  | inBrackets (colon : Bool)
deriving DecidableEq, Repr

/-- The operators outside braces and brackets, each with its token. Where one begins another it
    comes later, and an operator without a token stands in no query. -/
def outsideOperators : List (String × Option Token) := [
  ("(", some .openParen), (")", some .closeParen), (",", some .comma), ("@", some .at),
  ("+", some (.sign .add)), ("-", some (.sign .sub)), ("*", some (.sign .mul)),
  ("/", some (.sign .div)), ("%", some (.sign .mod)), ("^", some (.sign .pow)),
  ("==", some (.sign .eq)), ("=~", none), ("=", some .assign), ("!=", some (.sign .ne)),
  ("<=", some (.sign .le)), ("<", some (.sign .lt)), (">=", some (.sign .ge)),
  (">", some (.sign .gt))]

/-- The operators between braces. -/
def braceOperators : List (String × Option Token) := [
  (",", some .comma), ("=~", some .regexMatch), ("=", some .assign),
  ("!~", some .regexMismatch), ("!=", some (.sign .ne))]

/-- The first operator of a list with which a text begins, if there is one: its token and the rest
    of the text. -/
def scanOperator? (text : List Char) :
    List (String × Option Token) → Option (Option (Token × List Char))
  | [] => none
  | (op, token) :: operators =>
    match Text.after? op.toList text with
    | some rest => some (token.map fun t => (t, rest))
    | none => scanOperator? text operators

/-- Whether a character opens a string. -/
def isQuote (c : Char) : Bool := c == '"' || c.toNat == 0x27 || c.toNat == 0x60

/-- A token outside braces and brackets. -/
def scanOutside? (c : Char) (text : List Char) : Option (Token × List Char) :=
  match scanOperator? (c :: text) outsideOperators with
  | some found => found
  | none =>
    if c.isDigit || (c == '.' && (text.head?.map Char.isDigit).getD false) then
      scanQuantity? false (c :: text)
    else if isAlpha c || c == ':' then
      let (word, rest) := (c :: text).span fun d => Text.isAsciiWord d || d == ':'
      some (wordToken word, rest)
    else if isQuote c then scanString? c text
    else none

/-- A token between braces. The word `or` is an operator when a space follows it. -/
def scanInBraces? (c : Char) (text : List Char) : Option (Token × List Char) :=
  match scanOperator? (c :: text) braceOperators with
  | some found => found
  | none =>
    if isAlpha c then
      let (word, rest) := (c :: text).span Text.isAsciiWord
      let word' := String.ofList word
      if String.ofList (word.map Char.toLower) == "or" && rest.head? == some ' ' then
        some (.wordOp .or word', rest)
      else some (.ident word', rest)
    else if isQuote c then scanString? c text
    else none

/-- A token at a place, the rest of the text, and the place after it. -/
def scanOne? (place : Place) (c : Char) (text : List Char) :
    Option (Token × List Char × Place) :=
  match place with
  | .outside =>
    if c == '\x7b' then some (.openBrace, text, .inBraces)
    else if c == '[' then some (.openBracket, text, .inBrackets false)
    else (scanOutside? c text).map fun (t, rest) => (t, rest, .outside)
  | .inBraces =>
    if c == '\x7d' then some (.closeBrace, text, .outside)
    else (scanInBraces? c text).map fun (t, rest) => (t, rest, .inBraces)
  | .inBrackets colon =>
    if c == ']' then some (.closeBracket, text, .outside)
    else if c == ':' && !colon then some (.colon, text, .inBrackets true)
    else if c.isDigit then
      (scanQuantity? true (c :: text)).map fun (t, rest) => (t, rest, .inBrackets colon)
    else none

/-- The text after a comment. -/
def afterComment (text : List Char) : List Char :=
  text.dropWhile fun c => c != '\n' && c != '\r'

/-- The tokens of a text. Every step shortens it, so its length is fuel enough. A query ends outside
    braces and brackets. -/
def scan? : Nat → Place → List Char → Option (List Token)
  | _, place, [] => if place == .outside then some [] else none
  | 0, _, _ :: _ => none
  | fuel + 1, place, c :: text =>
    if Text.isAsciiBlank c then scan? fuel place text
    else if c == '#' && (place == .outside || place == .inBraces) then
      scan? fuel place (afterComment text)
    else
      match scanOne? place c text with
      | some (token, rest, place) => (scan? fuel place rest).map (token :: ·)
      | none => none

/-- The tokens of a query. -/
def tokens? (text : List Char) : Option (List Token) :=
  scan? text.length .outside text

end BoardLint.Query
