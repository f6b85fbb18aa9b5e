/-! # Laying out text

    Padding to a width, joining with a separator, splitting at a character. A
    width counts characters.
-/

namespace SimSweep

/-- A text filled up with blanks on the right. -/
def padRight (width : Nat) (cs : List Char) : List Char :=
  cs ++ List.replicate (width - cs.length) ' '

/-- A text filled up on the left. -/
def padLeft (fill : Char) (width : Nat) (cs : List Char) : List Char :=
  List.replicate (width - cs.length) fill ++ cs

/-- Texts joined with a separator between neighbours. -/
def joinWith (separator : List Char) : List (List Char) → List Char
  | [] => []
  | [t] => t
  | t :: u :: rest => t ++ separator ++ joinWith separator (u :: rest)

/-- Texts with a line break behind each. -/
def asLines (texts : List (List Char)) : List Char := texts.flatMap fun t => t ++ ['\n']

/-- The parts of a text between the occurrences of a character; one part more
    than there are occurrences. -/
def splitAt (separator : Char) : List Char → List (List Char)
  | [] => [[]]
  | c :: cs =>
    if c = separator then [] :: splitAt separator cs
    else match splitAt separator cs with
      | [] => [[c]]
      | part :: parts => (c :: part) :: parts

end SimSweep
