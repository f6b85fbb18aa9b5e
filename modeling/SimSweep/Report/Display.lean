import SimSweep.Report.View

/-! # Showing a report

    The end of a sweep is shown as a heading, the counts, a table and a verdict, in
    whichever view they are written.
-/

namespace SimSweep.Report

/-- The invocations that are listed. -/
def listed (r : Report) (listsAll : Bool) : List Invocation :=
  if listsAll then r.invocations else r.failures

/-- The table under its title, unless nothing is listed. -/
def listing (r : Report) (v : View) : List Char :=
  if (r.listed v.listsAll).isEmpty then []
  else
    "\n\n".toList ++
      (if v.listsAll then "Invocations:\n" else "Failed invocations:\n").toList ++
      v.table (r.listed v.listsAll)

/-- The verdict, if it is good. -/
def closing (r : Report) (v : View) : List Char :=
  if r.failed = 0 then "\n\n".toList ++ v.success "all invocations exited cleanly".toList
  else []

/-- A report as it is shown at the end of a sweep. -/
def display (r : Report) (v : View) : List Char :=
  v.heading "WAVE Sweep Results".toList ++ "\n\n".toList ++ v.summary r ++
    if r.isEmpty then
      "\n\n".toList ++
        v.warning "No invocations: empty value set or inverted run range".toList
    else r.listing v ++ r.closing v

/-- The text of a report; escape sequences appear where they are wanted and the
    terminal takes them. -/
def displayText (r : Report) (o : ViewOptions) (emits : Bool) : String :=
  String.ofList (r.display (.ofOptions o emits))

end SimSweep.Report
