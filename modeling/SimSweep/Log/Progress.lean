import SimSweep.Log.Entry
import SimSweep.Report
import SimSweep.Serial.Report

/-! # Progress

    The remarks on a sweep: one at its start, two on each invocation, one at its
    end. What went well is told in detail only, what did not is a warning.
-/

namespace SimSweep.Log.Progress

open Json (Value)

/-- A number in decimal. -/
def numberText (n : Nat) : String := String.ofList (Decimal.digitsOf n)

/-- The remark on a sweep that is about to start. -/
def start (plan : Plan) (template : Template) (runner : String) : Remark :=
  if plan.isEmpty then
    { level := .info
      message := "Sweep is empty, nothing to launch"
      notes :=
        [.value "data_rates" (.ofNumbers plan.rates),
         .value "distances" (.ofNumbers plan.distances),
         .value "start_run" (.ofInt plan.firstRun.toInt),
         .value "end_run" (.ofInt plan.lastRun.toInt)] }
  else
    { level := .info
      message :=
        "Starting sweep: " ++ numberText plan.rates.length ++ " data rates x " ++
          numberText plan.distances.length ++ " distances x " ++ numberText plan.runsPerPoint ++
          " runs = " ++ numberText plan.count ++ " invocations"
      notes :=
        [.value "launcher" (.string template.launcher),
         .value "scenario" (.string template.scenario),
         .value "runner" (.string runner)] }

/-- The place of an invocation in its sweep. -/
def position (index total : Nat) : String :=
  "[" ++ numberText index ++ "/" ++ numberText total ++ "] "

/-- The remark on an invocation that is about to start. -/
def invocationStart (index total : Nat) (point : Point) (command : String) : Remark where
  level := .info
  message := position index total ++ command
  notes := [.point point]

/-- The remark on an invocation that has ended. -/
def invocationEnd (index total : Nat) (i : Invocation) : Remark where
  level := if i.isSuccess then .debug else .warn
  message :=
    position index total ++ "run " ++ String.ofList (runText i.point.run) ++ " finished: " ++
      i.ending.label ++ " in " ++ String.ofList i.duration.text
  notes :=
    [.point i.point, .value "state" (Ending.codec.encode i.ending),
     .value "duration_ms" (.ofBinary64 i.duration.milliseconds)]

/-- The remark on a sweep that has ended. -/
def summary (r : Report) : Remark where
  level := if 0 < r.failed then .warn else .info
  message :=
    "Sweep finished: " ++ numberText r.total ++ " invocations, " ++ numberText r.succeeded ++
      " succeeded, " ++ numberText r.failed ++ " failed in " ++ String.ofList r.totalDuration.text
  notes :=
    [.value "total" (.ofNat r.total), .value "succeeded" (.ofNat r.succeeded),
     .value "failed" (.ofNat r.failed)]

end SimSweep.Log.Progress
