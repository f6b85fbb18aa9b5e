import SimSweep.Arguments.Reading
import SimSweep.Log.Logger
import SimSweep.Report.Display
import SimSweep.Runner
import SimSweep.Sweep
import SimSweep.Terminal.Colors

/-! # The program

    From the words of the command line to the exit code: read the arguments, load
    the settings, sweep, report. All actions on the system are taken in some monad,
    so the program is one definition for the system and for any model of it.
-/

namespace SimSweep

/-- What a build of the program knows of itself, and how the reader of its arguments words
    their faults. None of it makes a difference to what the program does. -/
structure Build where
  /-- When the program was built. -/
  time : String := "unknown"
  /-- What it was built from. -/
  commit : String := "unknown"
  /-- The place in its text from which the settings are logged. -/
  settingsPlace : Log.Location := { file := "unknown", line := 0, module := none }
  faultText : Usage.Fault → String := Usage.Fault.report

/-- What the program needs from the system. -/
structure System (m : Type → Type) extends Outlet m where
  build : Build
  now : m Timestamp
  clock : m Nat
  /-- A name for a new session. -/
  newSession : m String
  /-- Whether the standard output is a terminal. -/
  isTerminal : Bool

namespace Program

/-! ## Section 1: Texts of the program's own -/

/-- The line that says which program this is. -/
def bannerText (b : Build) : List Char :=
  (Usage.programName ++ " v" ++ Usage.programVersion ++ " (built " ++ b.time ++ ", commit " ++
    b.commit ++ ")").toList

/-- The remark on the settings. -/
def settingsRemark (b : Build) (s : Settings) : Log.Remark where
  level := .debug
  message := "Configuration loaded:\n" ++ s.summary
  notes := [.location b.settingsPlace]

/-- The remark on failures that are not held against the sweep. -/
def leniencyRemark (r : Report) : Log.Remark where
  level := .info
  message := "Ignoring failed invocations; pass --strict to turn them into an error"
  notes := [.failure (.sweep r.failed r.total)]

/-! ## Section 2: Steps -/

section

variable {m : Type → Type} [Monad m]

/-- Writes a line. -/
def writeLine (sys : System m) (stream : Stream) (cs : List Char) : m Unit :=
  sys.write stream (cs ++ ['\n'])

/-- Logs a remark through a logger. -/
def log (sys : System m) (emits : Bool) (logger : Log.Logger) (r : Log.Remark) : m Unit := do
  let time ← sys.now
  sys.write .error (logger.write emits time r)

/-- The stage of a sweep with some settings. -/
def stage (sys : System m) (emits : Bool) (s : Settings) (session : String) : Stage m where
  runnerName := (Runner.ofSettings s).name
  run := (Runner.ofSettings s).run sys.toOutlet
  now := sys.now
  clock := sys.clock
  log := log sys emits (.inSession "SWEEP" session s)

/-- Writes the report: as JSON if it can be written so, or for the terminal unless nothing
    was run. -/
def writeReport (sys : System m) (emits : Bool) (s : Settings) (r : Report) :
    m (Except Failure Unit) := do
  if s.jsonReport then
    match r.jsonText with
    | .error f => return .error f
    | .ok json => writeLine sys .output json.toList
  else if ¬ s.dryRun then
    writeLine sys .error (r.displayText ⟨s.colors, s.verbose⟩ emits).toList
  return .ok ()

/-- Sweeps with some settings in a new session, which is returned with the report. -/
def sweepSettings (sys : System m) (emits : Bool) (s : Settings) : m (String × Report) := do
  let session ← sys.newSession
  log sys emits (.inSession "MAIN" session s) (settingsRemark sys.build s)
  let r ← (stage sys emits s session).sweep s.toTemplate s.toPlan
  return (session, r)

/-- Judges a report. Failures that are not held against the sweep are remarked on. -/
def judge (sys : System m) (emits : Bool) (s : Settings) (session : String) (r : Report) :
    m (Except Failure Unit) := do
  if s.strict then return r.verdict
  if 0 < r.failed then log sys emits (.inSession "MAIN" session s) (leniencyRemark r)
  return .ok ()

/-- Sweeps with some settings, writes the report and judges it. -/
def runSettings (sys : System m) (emits : Bool) (s : Settings) : m (Except Failure Unit) := do
  let (session, r) ← sweepSettings sys emits s
  match ← writeReport sys emits s r with
  | .error f => return .error f
  | .ok () => judge sys emits s session r

/-- Loads the settings and sweeps with them. -/
def runArguments (sys : System m) (env : Environment) (a : Arguments) :
    m (Except Failure Unit) := do
  if a.debug then
    writeLine sys .error (bannerText sys.build)
    writeLine sys .error (a.summary env).toList
  match Settings.load a env with
  | .error f => return .error f
  | .ok s => runSettings sys (Terminal.emits env sys.isTerminal) s

/-- Reports a failure, with advice for those who want to hear more. -/
def reportFailure (sys : System m) (env : Environment) (a : Arguments) (f : Failure) : m Unit := do
  let emits := Terminal.emits env sys.isTerminal
  writeLine sys .error (f.consoleText emits (a.wantsColors env)).toList
  if a.verbose then
    writeLine sys .error []
    writeLine sys .error f.advice.toList

/-- Answers a request for information or reports a fault of the arguments; the
    result is the exit code. -/
def stop (sys : System m) : Usage.Stop → m Nat
  | .help long => do
    sys.write .output (Usage.help long).toList
    return 0
  | .version => do
    sys.write .output Usage.version.toList
    return 0
  | .fault f => do
    sys.write .error (sys.build.faultText f).toList
    return 2

/-- Runs the program; the result is its exit code. -/
def run (sys : System m) (words : List Word) (env : Environment) : m Nat := do
  match Usage.read words with
  | .error reason => stop sys reason
  | .ok a =>
    match ← runArguments sys env a with
    | .ok () => return 0
    | .error f => do
      reportFailure sys env a f
      return f.exitCode

end

end Program

end SimSweep
