/-! # Terminal styles

    A style is a color and a weight. Painting a text encloses it in an opening
    escape sequence and a reset. A reset inside the text would end the style too
    early, so the opening sequence is repeated behind each.
-/

namespace SimSweep

/-- A color of a terminal: one of the sixteen that have names, one of a table of 256, or
    one that is given by its shares of red, green and blue. -/
inductive Color where
  | black | red | green | yellow | blue | magenta | cyan | white
  | brightBlack | brightRed | brightGreen | brightYellow
  | brightBlue | brightMagenta | brightCyan | brightWhite
  | indexed (place : UInt8)
  | shares (red green blue : UInt8)
  deriving DecidableEq

/-- The numbers that select a color for the text. -/
def Color.codes : Color → List Nat
  | .black => [30] | .red => [31] | .green => [32] | .yellow => [33]
  | .blue => [34] | .magenta => [35] | .cyan => [36] | .white => [37]
  | .brightBlack => [90] | .brightRed => [91] | .brightGreen => [92] | .brightYellow => [93]
  | .brightBlue => [94] | .brightMagenta => [95] | .brightCyan => [96] | .brightWhite => [97]
  | .indexed place => [38, 5, place.toNat]
  | .shares r g b => [38, 2, r.toNat, g.toNat, b.toNat]

/-- How a text looks. -/
structure Style where
  bold : Bool := false
  color : Option Color := none
  deriving DecidableEq

namespace Style

/-- The style that changes nothing. -/
def plain : Style := {}

/-- A color in normal weight. -/
def colored (c : Color) : Style := { color := some c }

/-- A color in bold. -/
def boldColored (c : Color) : Style := { bold := true, color := some c }

/-- The numbers that select a style, the weight first. -/
def codes (s : Style) : List Nat :=
  (if s.bold then [1] else []) ++ s.color.toList.flatMap Color.codes

/-- Whether a style changes nothing. -/
def isPlain (s : Style) : Bool := !s.bold && s.color.isNone

end Style

namespace Terminal

/-- The character that starts an escape sequence. -/
def escape : Char := '\x1b'

/-- The sequence that selects a style. -/
def opening (s : Style) : List Char :=
  escape :: '[' :: (";".intercalate (s.codes.map toString)).toList ++ ['m']

/-- The sequence that ends every style. -/
def reset : List Char := [escape, '[', '0', 'm']

/-- A text with a sequence repeated behind every reset. -/
def reopen (opening : List Char) : List Char → List Char
  | '\x1b' :: '[' :: '0' :: 'm' :: rest => reset ++ opening ++ reopen opening rest
  | c :: rest => c :: reopen opening rest
  | [] => []

/-- A text in a style, if the terminal takes escape sequences. -/
def paint (emits : Bool) (s : Style) (text : List Char) : List Char :=
  if emits ∧ ¬ s.isPlain then opening s ++ reopen (opening s) text ++ reset else text

end Terminal

/-! ## Styled text -/

/-- A piece of text in one style. -/
structure Span where
  style : Style := .plain
  text : List Char

/-- A text made of pieces in different styles. -/
abbrev StyledText := List Span

namespace StyledText

/-- A text without a style. -/
def ofString (s : String) : StyledText := [{ text := s.toList }]

/-- A text in a style. -/
def styled (style : Style) (cs : List Char) : StyledText := [{ style, text := cs }]

/-- The text alone. -/
def plainText (t : StyledText) : List Char := t.flatMap Span.text

/-- The text in its styles. -/
def paint (emits : Bool) (t : StyledText) : List Char :=
  t.flatMap fun span => Terminal.paint emits span.style span.text

end StyledText

end SimSweep
