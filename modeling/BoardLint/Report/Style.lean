import BoardLint.Text.Basic

set_option autoImplicit false

/-! # Styles of text

Colours and other styles of text on a terminal, as escape sequences. A style ends with a reset;
where a styled text holds resets of its own, the style begins again after each. -/

namespace BoardLint

/-- A style of text. -/
inductive Style where
  | bold
  | dimmed
  | underline
  | red
  | green
  | yellow
  | boldRed
deriving DecidableEq, Repr

namespace Style

/-- The numbers of a style in its escape sequence. -/
def code : Style → String
  | .bold => "1"
  | .dimmed => "2"
  | .underline => "4"
  | .red => "31"
  | .green => "32"
  | .yellow => "33"
  | .boldRed => "1;31"

/-- The escape sequence that ends all styles. -/
def reset : List Char := "\x1b[0m".toList

/-- The escape sequence that begins a style. -/
def opening (s : Style) : List Char := "\x1b[".toList ++ s.code.toList ++ ['m']

/-- A text in which a style begins again after each reset. -/
def reopen (opening : List Char) : Nat → List Char → List Char
  | 0, text => text
  | _, [] => []
  | fuel + 1, c :: text =>
    match Text.after? reset (c :: text) with
    | some rest => reset ++ opening ++ reopen opening fuel rest
    | none => c :: reopen opening fuel text

/-- A text in a style, if styles are wanted. -/
def paint (s : Style) (wanted : Bool) (text : String) : String :=
  if wanted then
    String.ofList (s.opening ++ reopen s.opening text.length text.toList ++ reset)
  else text

end Style

end BoardLint
