import SimSweep.Report.Table
import SimSweep.Terminal.Style

/-! # Views of a report

    A view writes the parts of which the end of a sweep is composed: a heading, the
    counts, a table, a warning and a success. There are two of them. The plain one
    writes text, the colored one paints what stands out; where a part is filled up or
    trimmed, it paints before or after that as the part demands.
-/

namespace SimSweep

/-- A way of writing the parts of a report. -/
structure View where
  heading : List Char → List Char
  summary : Report → List Char
  table : List Invocation → List Char
  warning : List Char → List Char
  success : List Char → List Char
  /-- Whether all invocations are listed and not only those that failed. -/
  listsAll : Bool

/-- How a report is shown. -/
structure ViewOptions where
  colors : Bool := true
  /-- Whether all invocations are listed and not only those that failed. -/
  listsAll : Bool := false
  deriving DecidableEq

/-- The colors of a report. -/
structure Palette where
  heading : Color := .cyan
  success : Color := .green
  failure : Color := .red
  warning : Color := .yellow
  deriving DecidableEq

/-- The color of an ending. An invocation that neither exited nor failed to exit
    cleanly is a warning. -/
def Palette.ofEnding (p : Palette) : Ending → Color
  | .success => p.success
  | .failed _ => p.failure
  | .terminated _ | .notStarted _ => p.warning

namespace View

/-- A number in decimal. -/
def countText (n : Nat) : List Char := Decimal.digitsOf n

/-! ## Section 1: The plain view -/

namespace Plain

/-- A heading, underlined. -/
def heading (title : List Char) : List Char :=
  title ++ '\n' :: List.replicate title.length '='

/-- The counts and the duration. -/
def summary (r : Report) : List Char :=
  "Invocations: ".toList ++ countText r.total ++
  "\nSucceeded:   ".toList ++ countText r.succeeded ++
  "\nFailed:      ".toList ++ countText r.failed ++
  "\nDuration:    ".toList ++ r.totalDuration.text

/-- The line of the headings. -/
def headingLine (w : Row Nat) : List Char := Row.gap ++ (Row.headings.padded w).joined

/-- The line of an invocation. -/
def line (w : Row Nat) (i : Invocation) : List Char :=
  Row.gap ++ ((Row.ofInvocation i).padded w).joined

/-- The table of some invocations; without any there is no table. -/
def table (listed : List Invocation) : List Char :=
  if listed.isEmpty then []
  else
    let w := Row.widths (listed.map Row.ofInvocation)
    trimEnd (asLines (headingLine w :: listed.map (line w)))

/-- A warning. -/
def warning (text : List Char) : List Char := "WARNING: ".toList ++ text

/-- Good news. -/
def success (text : List Char) : List Char := "OK: ".toList ++ text

end Plain

/-- The view without colors. -/
def plain (listsAll : Bool) : View where
  heading := Plain.heading
  summary := Plain.summary
  table := Plain.table
  warning := Plain.warning
  success := Plain.success
  listsAll := listsAll

/-! ## Section 2: The colored view

    Escape sequences are written only to a terminal that takes them. -/

namespace Colored

open Terminal (paint)

section

variable (p : Palette) (emits : Bool)

/-- A heading, underlined. -/
def heading (title : List Char) : List Char :=
  paint emits (.boldColored p.heading) title ++
  '\n' :: paint emits (.colored p.heading) (List.replicate title.length '=')

/-- The style of the number of failures, which stands out unless it is zero. -/
def failedStyle (r : Report) : Style :=
  if 0 < r.failed then .boldColored p.failure else .plain

/-- The counts and the duration. -/
def summary (r : Report) : List Char :=
  "Invocations: ".toList ++ paint emits { bold := true } (countText r.total) ++
  "\nSucceeded:   ".toList ++ paint emits (.colored p.success) (countText r.succeeded) ++
  "\nFailed:      ".toList ++ paint emits (failedStyle p r) (countText r.failed) ++
  "\nDuration:    ".toList ++ r.totalDuration.text

/-- The line of the headings, painted when it is trimmed. -/
def headingLine (w : Row Nat) : List Char :=
  Row.gap ++ paint emits { bold := true } (Row.headings.padded w).joined

/-- The line of an invocation. Its status is painted when it is filled up, and the line
    is trimmed after that. -/
def line (w : Row Nat) (i : Invocation) : List Char :=
  let cells := (Row.ofInvocation i).padded w
  Row.gap ++ (cells.mapStatus (paint emits (.colored (p.ofEnding i.ending)))).joined

/-- The table of some invocations; without any there is no table. -/
def table (listed : List Invocation) : List Char :=
  if listed.isEmpty then []
  else
    let w := Row.widths (listed.map Row.ofInvocation)
    trimEnd (asLines (headingLine emits w :: listed.map (line p emits w)))

/-- A warning. -/
def warning (text : List Char) : List Char :=
  paint emits (.boldColored p.warning) "WARNING:".toList ++ ' ' :: text

/-- Good news. -/
def success (text : List Char) : List Char :=
  paint emits (.boldColored p.success) "OK:".toList ++ ' ' :: text

end

end Colored

/-- The view in the colors of a palette. -/
def colored (p : Palette) (emits listsAll : Bool) : View where
  heading := Colored.heading p emits
  summary := Colored.summary p emits
  table := Colored.table p emits
  warning := Colored.warning p emits
  success := Colored.success p emits
  listsAll := listsAll

/-- The view that is wanted. -/
def ofOptions (o : ViewOptions) (emits : Bool) : View :=
  if o.colors then colored {} emits o.listsAll else plain o.listsAll

end View

end SimSweep
