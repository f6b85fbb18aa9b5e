import SimSweep.Launch
import SimSweep.Log.Session
import SimSweep.Program
import Std.Time.DateTime.Timestamp

/-! # The command line

    The system that the program runs on: its streams, its clocks, its environment,
    and a shell that keeps the files of its commands to itself.
-/

namespace SimSweep.Main

/-- The variables of the environment that the program looks at. -/
def variableNames : List String :=
  [Settings.Variable.rates, .distances, .launcher, .scenario, .program].map (·.name) ++
    ["TERM", "NO_COLOR", "FORCE_COLOR", "CLICOLOR", "CLICOLOR_FORCE", "COLORTERM"]

/-- The variables that are set. -/
def readVariables : IO (List (String × String)) :=
  variableNames.filterMapM fun name => do
    return (← IO.getEnv name).map fun value => (name, value)

/-- The present time. -/
def readTime : IO Timestamp := do
  let nanos := (← Std.Time.Timestamp.now).toNanosecondsSinceUnixEpoch.val
  return ⟨nanos.fdiv (Nat.pow 10 9), (nanos.fmod (Nat.pow 10 9)).toNat⟩

/-- Writes bytes to a stream at once. -/
def writeBytes (stream : Stream) (bytes : List UInt8) : IO Unit := do
  let handle ← match stream with
    | .output => IO.getStdout
    | .error => IO.getStderr
  handle.write ⟨bytes.toArray⟩
  handle.flush

/-- What is known of this build. -/
def build : Build where
  settingsPlace :=
    { file := "SimSweep/Program.lean", line := 101, module := some "SimSweep.Program" }

/-- The system of this process. The files that the commands leave behind are kept for
    those that follow. -/
def system (files : IO.Ref Kernel.Files) (environment : List (String × String))
    (isTerminal : Bool) : System IO where
  launch path stream command := do
    let outcome := Launch.run (← files.get) environment path command
    for (s, bytes) in outcome.written do
      writeBytes (match s with
        | .output => stream
        | .error => .error) bytes
    files.set outcome.files
    return outcome.ending
  write stream cs := writeBytes stream (Utf8.encode cs)
  build
  now := readTime
  clock := IO.monoNanosNow
  newSession := do return Log.Session.name (← IO.getRandomBytes 16).toList
  isTerminal

end SimSweep.Main

open SimSweep in
/-- Runs the program on the arguments of the process. -/
def main (args : List String) : IO UInt32 := do
  let files ← IO.mkRef Launch.initialFiles
  let environment ← Main.readVariables
  let isTerminal ← (← IO.getStdout).isTty
  let code ← Program.run (Main.system files environment isTerminal)
    (args.map Word.ofString) (environment.lookup ·)
  return UInt32.ofNat code
