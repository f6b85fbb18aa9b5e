/-! # The words of a command

    How a shell splits a command into words, as far as quoting goes. Blanks separate
    words unless they are quoted. Single quotes quote all that is between them. Double
    quotes leave the backslash its meaning, in front of the few characters that would
    have one there. Outside quotes a backslash quotes any character behind it, and in
    both places it takes away a line break. What is quoted belongs to the word around
    it, the quotes themselves do not, and a quote that is left open is an error. Which
    characters are blanks is up to the locale of the shell.
-/

namespace SimSweep.ShellWords

/-- What quotes the next character. -/
inductive Quoting where
  | bare
  | single
  | double
  /-- A backslash outside quotes. -/
  | escape
  /-- A backslash between double quotes. -/
  | doubleEscape
  deriving DecidableEq

/-- How far a command has been split. -/
structure Splitter where
  quoting : Quoting := .bare
  /-- The word that has begun, if one has. -/
  word : Option (List Char) := none
  /-- The words that have ended. -/
  ended : List (List Char) := []

namespace Splitter

/-- Goes on with another quoting. -/
def within (s : Splitter) (q : Quoting) : Splitter := { s with quoting := q }

/-- Opens quotes. They begin a word, even if nothing is between them. -/
def openQuote (s : Splitter) (q : Quoting) : Splitter :=
  { s with quoting := q, word := some (s.word.getD []) }

/-- Takes a character into the word. -/
def push (s : Splitter) (c : Char) : Splitter := { s with word := some (s.word.getD [] ++ [c]) }

/-- Ends the word that has begun. -/
def close (s : Splitter) : Splitter := { s with word := none, ended := s.ended ++ s.word.toList }

/-- Whether a backslash between double quotes quotes a character. -/
def escapable (c : Char) : Bool := c == '$' || c == '\x60' || c == '"' || c == '\\'

/-- Takes one character. -/
def step (blank : Char → Bool) (s : Splitter) (c : Char) : Splitter :=
  match s.quoting with
  | .bare =>
    if c = '\'' then s.openQuote .single
    else if c = '"' then s.openQuote .double
    else if c = '\\' then s.within .escape
    else if blank c then s.close
    else s.push c
  | .single => if c = '\'' then s.within .bare else s.push c
  | .double =>
    if c = '"' then s.within .bare
    else if c = '\\' then s.within .doubleEscape
    else s.push c
  | .escape => if c = '\n' then s.within .bare else (s.push c).within .bare
  | .doubleEscape =>
    if c = '\n' then s.within .double
    else if escapable c then (s.push c).within .double
    else ((s.push '\\').push c).within .double

/-- The words, unless a quote is open. -/
def words? (s : Splitter) : Option (List (List Char)) :=
  match s.quoting with
  | .bare => some (s.ended ++ s.word.toList)
  | _ => none

end Splitter

/-- The words of a command, for a class of blanks. -/
def split (blank : Char → Bool) (cs : List Char) : Option (List (List Char)) :=
  (cs.foldl (Splitter.step blank) {}).words?

/-- The blanks of the standard locale. -/
def standardBlank (c : Char) : Bool := c == ' ' || c == '\t' || c == '\n'

example : split standardBlank "a 'b c'd \"$e\\\"\\f\"  \\g ''".toList =
    some (["a", "b cd", "$e\"\\f", "g", ""].map String.toList) := by decide

end SimSweep.ShellWords
