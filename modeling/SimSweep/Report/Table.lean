import SimSweep.Report
import SimSweep.Text.Blank
import SimSweep.Text.Layout

/-! # The table of invocations

    Five columns, each as wide as its heading or its widest cell, with two blanks
    between them and in front. Every cell is filled up to the width of its column, and
    the blanks that this leaves at the end of a line are taken off again.
-/

namespace SimSweep

/-- The five cells of a line. -/
structure Row (α : Type) where
  run : α
  rate : α
  distance : α
  status : α
  time : α

namespace Row

/-- The headings. -/
def headings : Row (List Char) :=
  ⟨"RUN".toList, "DATA RATE".toList, "DISTANCE".toList, "STATUS".toList, "TIME".toList⟩

/-- The cells of an invocation. -/
def ofInvocation (i : Invocation) : Row (List Char) where
  run := runText i.point.run
  rate := i.point.rate.write .plain
  distance := i.point.distance.write .plain
  status := i.ending.label.toList
  time := i.duration.text

/-- A row from each column of two rows. -/
def zipWith {α β γ : Type} (f : α → β → γ) (a : Row α) (b : Row β) : Row γ :=
  ⟨f a.run b.run, f a.rate b.rate, f a.distance b.distance, f a.status b.status, f a.time b.time⟩

/-- A row with a function applied to each cell. -/
def map {α β : Type} (f : α → β) (a : Row α) : Row β :=
  ⟨f a.run, f a.rate, f a.distance, f a.status, f a.time⟩

/-- The cells from left to right. -/
def toList {α : Type} (a : Row α) : List α := [a.run, a.rate, a.distance, a.status, a.time]

/-- The width of each column: that of the widest cell. -/
def widths (rows : List (Row (List Char))) : Row Nat :=
  rows.foldl (fun w row => zipWith max w (row.map List.length)) (headings.map List.length)

/-- The cells of a row filled up to the widths. -/
def padded (row : Row (List Char)) (w : Row Nat) : Row (List Char) := zipWith padRight w row

/-- A row with a function applied to its status. -/
def mapStatus {α : Type} (f : α → α) (row : Row α) : Row α := { row with status := f row.status }

/-- The two blanks between columns and in front of a line. -/
def gap : List Char := [' ', ' ']

/-- The text of some cells, without the blanks at its end. -/
def joined (cells : Row (List Char)) : List Char := trimEnd (joinWith gap cells.toList)

end Row

end SimSweep
