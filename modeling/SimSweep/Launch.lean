import SimSweep.Kernel.Scheduler
import SimSweep.Tool.Table

/-! # Launching a program

    A command is handed to the program that a path names, as the argument behind
    `-c`. What comes of it is the way in which the program ended, what it wrote, and
    the files that it leaves behind.
-/

namespace SimSweep.Launch

open Kernel Shell

/-- What comes of a launch. -/
structure Outcome where
  ending : Ending
  /-- What was written, oldest first. -/
  written : List (Stream × List UInt8) := []
  files : Files

/-- The files of a system in which nothing has been launched. -/
def initialFiles : Files := .initial Tool.names

/-- The number of the process that launches. -/
def launchingProcess : Nat := 999

/-- The number of the process that is launched. -/
def launchedProcess : Nat := 1000

/-- A system in which a process has just been started. Its input is empty. -/
def startWorld (files : Files) : World :=
  let input := match files.find Files.root "/dev/null" with
    | .ok id => id
    | .error _ => Files.root
  { files
    handles := #[
      { target := .node input, reads := true, writes := false },
      { target := .stream .output, reads := false, writes := true },
      { target := .stream .error, reads := false, writes := true }]
    processes := [
      { id := launchingProcess, parent := 0, descriptors := [], directory := Files.root },
      { id := launchedProcess, parent := launchingProcess
        descriptors := [⟨0, 0, false⟩, ⟨1, 1, false⟩, ⟨2, 2, false⟩], directory := Files.root }]
    current := launchedProcess
    nextProcess := launchedProcess + 1 }

/-- The ending that the end of a process stands for. -/
def endingOf : Exit → Ending
  | .status 0 => .success
  | .status n => .failed (Int32.ofNat n)
  | .signal n => .terminated (some (Int32.ofNat n))

/-- Why a program did not start. -/
def launchFault (path reason : String) : String := "failed to start " ++ path ++ ": " ++ reason

/-- The path of the program that is meant by a path: one without a slash is looked for in
    the usual directories. -/
def programPath (w : World) (environment : List (String × String)) (path : String) :
    Except Fault String :=
  let rec first : List String → Fault → Except Fault String
    | [], f => .error f
    | p :: rest, f =>
      match Tool.runnerOf w p with
      | .ok _ => .ok p
      | .error .denied => first rest .denied
      | .error .notFound | .error .notDirectory => first rest f
      | .error g => .error g
  if path.contains '/' then (Tool.runnerOf w path).map fun _ => path
  else if path.isEmpty then .error .notFound
  else first (Tool.placesOf environment path) .notFound

/-- Hands a command to the program that a path names. -/
def run (files : Files) (environment : List (String × String))
    (path command : String) : Outcome :=
  if path.contains '\x00' ∨ command.contains '\x00' then
    { ending := .notStarted (launchFault path "nul byte found in provided data"), files }
  else
    let w := startWorld files
    let environment := environment.map fun (name, value) =>
      (Octets.ofText name, Octets.ofText value)
    let name := Octets.ofText path
    match programPath w environment name with
    | .error f =>
      let reason := f.message ++ " (os error " ++ numberText f.number ++ ")"
      { ending := .notStarted (launchFault path reason), files }
    | .ok place =>
      let call : Call :=
        { path := place, name, args := ["-c", Octets.ofText command], environment }
      let behavior : Behavior := Tool.host Tool.hostLimit call fun
        | .ok n => Work.exit (α := Unit) n fun _ => .finish
        | .error _ => Work.exit (α := Unit) 127 fun _ => .finish
      let w := runThreads turns w [{ id := launchedProcess, behavior, time := 0 }]
      { ending := match w.process? launchedProcess with
          | some { phase := .ended exit, .. } => endingOf exit
          | _ => .success
        written := w.written.reverse.map fun (s, bytes) => (s, bytes.toList)
        files := w.files }

end SimSweep.Launch
