import SimSweep.Log.Progress

/-! # Sweeps

    A sweep launches every point of a plan, one after the other and to the end:
    an invocation that fails is recorded like any other. What surrounds the sweep
    is a *stage*, a few actions in some monad, so the same sweep runs against the
    system, against a recording or against any machine with a state.
-/

namespace SimSweep

/-- What a sweep needs from outside. -/
structure Stage (m : Type → Type) where
  /-- The name of the runner. -/
  runnerName : String
  /-- Runs a command to its end. -/
  run : String → m Ending
  /-- The present time. -/
  now : m Timestamp
  /-- A clock in nanoseconds that never goes back. -/
  clock : m Nat
  /-- Logs a remark. -/
  log : Log.Remark → m Unit

namespace Stage

variable {m : Type → Type} [Monad m]

/-- A stage on which nothing is logged. -/
def quiet (s : Stage m) : Stage m := { s with log := fun _ => pure () }

/-- Launches one point; `index` counts from one. -/
def invoke (s : Stage m) (t : Template) (total index : Nat) (p : Point) : m Invocation := do
  let command := t.render p
  s.log (Log.Progress.invocationStart index total p command)
  let began ← s.clock
  let ending ← s.run command
  let ended ← s.clock
  let i : Invocation := { point := p, command, ending, duration := .between began ended }
  s.log (Log.Progress.invocationEnd index total i)
  return i

/-- Launches points in order and records them in a report. -/
def invokeAll (s : Stage m) (t : Template) (total : Nat) : Nat → List Point → Report → m Report
  | _, [], r => pure r
  | index, p :: rest, r => do
    let i ← s.invoke t total index p
    s.invokeAll t total (index + 1) rest (r.record i)

/-- Sweeps over a plan. -/
def sweep (s : Stage m) (t : Template) (plan : Plan) : m Report := do
  let startedAt ← s.now
  let began ← s.clock
  s.log (Log.Progress.start plan t s.runnerName)
  let r ← s.invokeAll t plan.count 1 plan.points { startedAt }
  let ended ← s.clock
  let r := { r with totalDuration := .between began ended }
  s.log (Log.Progress.summary r)
  return r

/-- Sweeps over values that are given one by one. Nothing is logged. -/
def sweepValues (s : Stage m) (rates distances : List Binary64) (firstRun lastRun : Int64)
    (t : Template) : m Report :=
  s.quiet.sweep t { rates, distances, firstRun, lastRun }

end Stage

end SimSweep
