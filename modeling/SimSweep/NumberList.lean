import SimSweep.Failure
import SimSweep.Number.Reading
import SimSweep.Text.Blank
import SimSweep.Text.Layout

/-! # Lists of numbers

    A variable of the environment holds a list of numbers with commas between
    them. Blanks around an entry do not count, and an entry of blanks alone is
    no entry.
-/

namespace SimSweep.NumberList

/-- The entries of a list, trimmed, without those that are blank. -/
def entries (cs : List Char) : List (List Char) :=
  ((splitAt ',' cs).map trim).filter fun entry => !entry.isEmpty

/-- The number of one entry; the variable is named if there is none. -/
def readEntry (variableName : String) (entry : List Char) : Except Failure Binary64 :=
  match Binary64.read? entry with
  | some x => .ok x
  | none => .error (.config (.badListEntry variableName (String.ofList entry)))

/-- The numbers of a list in order. The leftmost entry that is no number decides
    the failure. -/
def read (variableName value : String) : Except Failure (List Binary64) :=
  (entries value.toList).mapM (readEntry variableName)

/-- A list of numbers as it is shown. -/
def text (xs : List Binary64) : List Char :=
  joinWith ", ".toList (xs.map (Binary64.write .plain))

end SimSweep.NumberList
