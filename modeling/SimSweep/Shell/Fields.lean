import SimSweep.Shell.Pattern

/-! # Splitting words into fields

    What the parts of a word stand for is a row of pieces. The characters that came
    from an unquoted value may separate fields; all others belong to the field they
    are in.
-/

namespace SimSweep.Shell

/-- A piece of what a word stands for. -/
inductive Piece where
  /-- A character of the word itself, or of a quoted value. -/
  | fast (c : Char) (quoted : Bool)
  /-- A character of an unquoted value. -/
  | loose (c : Char)
  /-- Quotes, which make a field even if nothing is in them. -/
  | anchor
  /-- A list without elements between quotes. -/
  | absent
  /-- An end of an argument, which is an end of a field whatever the separators are. -/
  | split
  /-- The start of a value; whether only ends of arguments separate fields in it. -/
  | region (argumentsOnly : Bool)

/-- The pieces of a value. -/
def Piece.ofValue (quoted : Bool) (s : String) : List Piece :=
  if quoted then s.toList.map (.fast · true) else .region false :: s.toList.map .loose

/-- A piece of a word that stands in the place of a parameter: its unquoted
    characters are as good as those of a value. -/
def Piece.loosened : Piece → Piece
  | .fast c false => .loose c
  | piece => piece

/-- Whether a separator counts as blank: several in a row are one. -/
def isBlankSeparator (c : Char) : Bool := c == ' ' || c == '\t' || c == '\n'

/-- Fields while they are put together. -/
structure Fields where
  /-- The finished fields, newest first. -/
  done : List Marked := []
  /-- The field at hand, backwards. -/
  current : Option Marked := none
  /-- Whether a field was just ended by blanks. -/
  afterBlank : Bool := false
  /-- Whether only ends of arguments separate fields here. -/
  argumentsOnly : Bool := false
  /-- Whether that was so in the value before. -/
  followsArguments : Bool := false
  /-- How many fields may still be ended; no number stands for any. -/
  left : Option Nat := none
  /-- The length to which the last field is cut. -/
  cut : Option Nat := none

namespace Fields

/-- The length of the field at hand. -/
def length (f : Fields) : Nat := (f.current.getD []).length

/-- Adds a character to the field at hand. -/
def add (f : Fields) (c : Char) (quoted : Bool) : Fields :=
  { f with current := some ((c, quoted) :: f.current.getD []) }

/-- Takes a character where no further field may be ended. -/
def takeLast (f : Fields) (c : Char) (separates isBlank : Bool) : Fields :=
  if isBlank then { f.add c false with cut := some (f.cut.getD f.length) }
  else
    { f.add c false with
      cut := if separates ∧ f.afterBlank then f.cut else none
      afterBlank := false }

/-- Takes a character of a value, or an end of an argument. -/
def takeValue (f : Fields) (c : Char) (separates isBlank : Bool) : Fields :=
  if f.left = some 0 then f.takeLast c separates isBlank
  else if f.afterBlank ∧ separates then
    if isBlank then f else { f with afterBlank := false }
  else if separates then
    let blank := if f.followsArguments || f.argumentsOnly then f.afterBlank else isBlank
    if f.current.isNone ∧ blank then { f with afterBlank := false }
    else
      let left := f.left.map (· - 1)
      if left = some 0 then
        { f.add c false with afterBlank := blank, cut := some f.length, left }
      else
        { f with done := (f.current.getD []).reverse :: f.done, current := none
                 afterBlank := blank, left }
  else { f.add c false with afterBlank := false }

/-- Takes one piece. -/
def take (separators : List Char) (f : Fields) : Piece → Fields
  | .fast c quoted => f.add c quoted
  | .anchor => { f with current := some (f.current.getD []) }
  | .absent => f
  | .split => f.takeValue ' ' true true
  | .region argumentsOnly =>
    { f with argumentsOnly, followsArguments := f.argumentsOnly, afterBlank := false }
  | .loose c =>
    let separates := separators.contains c
    f.takeValue c separates (separates && isBlankSeparator c)

/-- Ends the field at hand. -/
def close (f : Fields) : Fields :=
  match f.current with
  | some cs =>
    let cs := cs.reverse
    { f with done := (match f.cut with
        | some n => cs.take n
        | none => cs) :: f.done
             current := none }
  | none => if f.argumentsOnly then { f with done := [] :: f.done } else f

/-- The fields of a row of pieces; there may be a most of them. -/
def ofPieces (separators : List Char) (pieces : List Piece) (most : Option Nat := none) :
    List Marked :=
  (pieces.foldl (take separators) { left := most }).close.done.reverse

end Fields

/-- The characters of pieces that are not split; ends of arguments become blanks. -/
def Piece.joined (pieces : List Piece) : Marked :=
  pieces.flatMap fun
    | .fast c quoted => [(c, quoted)]
    | .loose c => [(c, false)]
    | .anchor | .absent | .region _ => []
    | .split => [(' ', true)]

/-- The string of marked characters. -/
def Marked.text (m : Marked) : String := String.ofList m.chars

end SimSweep.Shell
