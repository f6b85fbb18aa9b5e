import SimSweep.Command
import SimSweep.Ending
import SimSweep.Failure
import SimSweep.Time.Duration
import SimSweep.Time.Timestamp

/-! # Reports

    What came of a sweep: one record for each invocation, in the order in which
    they were made, with the counts and the verdict that follow from them.
-/

namespace SimSweep

/-- The record of one invocation. -/
structure Invocation where
  point : Point
  command : String
  ending : Ending
  duration : Duration
  deriving DecidableEq

/-- Whether an invocation succeeded. -/
def Invocation.isSuccess (i : Invocation) : Bool := i.ending.isSuccess

/-- The record of a sweep. -/
structure Report where
  startedAt : Timestamp
  totalDuration : Duration := .zero
  invocations : List Invocation := []
  deriving DecidableEq

namespace Report

/-- Adds the record of one more invocation. -/
def record (r : Report) (i : Invocation) : Report :=
  { r with invocations := r.invocations ++ [i] }

/-- The number of invocations. -/
def total (r : Report) : Nat := r.invocations.length

/-- The number of invocations that succeeded. -/
def succeeded (r : Report) : Nat := r.invocations.countP Invocation.isSuccess

/-- The number of invocations that did not. -/
def failed (r : Report) : Nat := r.total - r.succeeded

/-- The invocations that did not succeed. -/
def failures (r : Report) : List Invocation := r.invocations.filter fun i => !i.isSuccess

/-- Whether nothing was launched. -/
def isEmpty (r : Report) : Bool := r.invocations.isEmpty

/-- The reason why an invocation was not started, if it was not. -/
def launchReason? (i : Invocation) : Option String :=
  match i.ending with
  | .notStarted reason => some reason
  | _ => none

/-- The verdict on a sweep in which every invocation has to succeed. Invocations
    that were not started weigh more than those that failed, since they point at
    the launcher and not at the simulator. -/
def verdict (r : Report) : Except Failure Unit :=
  match r.invocations.filterMap launchReason? with
  | reason :: others => .error (.launch (.notStarted (others.length + 1) r.total reason))
  | [] => if 0 < r.failed then .error (.sweep r.failed r.total) else .ok ()

end Report

end SimSweep
