import SimSweep.Ending
import SimSweep.Settings

/-! # Runners

    A runner takes the commands of a sweep. One hands them to a command shell, the
    other only lists them. The standard output of the children and the list go to
    the standard error stream when the standard output belongs to the report.
-/

namespace SimSweep

/-- A stream that the program writes to. -/
inductive Stream where
  | output
  | error
  deriving DecidableEq

/-- Where the output of children and the list of commands go. -/
inductive Route where
  /-- To the standard output. -/
  | inherit
  /-- To the standard error stream. -/
  | divert
  deriving DecidableEq

/-- The stream of a route. -/
def Route.stream : Route → Stream
  | .inherit => .output
  | .divert => .error

/-- The route under some settings. -/
def Route.ofSettings (s : Settings) : Route := if s.jsonReport then .divert else .inherit

/-- A way to deal with commands. -/
inductive Runner where
  | shell (path : String) (route : Route)
  | listing (route : Route)
  deriving DecidableEq

/-- What a runner needs from outside. -/
structure Outlet (m : Type → Type) where
  /-- Hands a command to the shell of a path, with its standard output going to a
      stream, and waits for its end. -/
  launch : String → Stream → String → m Ending
  /-- Writes a text to a stream. -/
  write : Stream → List Char → m Unit
  /-- Lists a command on a stream, on a line of its own. Unlike other text a list may find
      its reader gone. -/
  list : Stream → String → m Unit := fun stream command =>
    write stream (command.toList ++ ['\n'])

namespace Runner

/-- The shell that is used unless another one is named. -/
def usualShell : String := "sh"

/-- The runner under some settings. -/
def ofSettings (s : Settings) : Runner :=
  if s.dryRun then .listing (.ofSettings s) else .shell usualShell (.ofSettings s)

/-- The name of a runner. -/
def name : Runner → String
  | .shell _ _ => "shell"
  | .listing _ => "dry-run"

/-- Runs a command to its end. Listing a command always succeeds. -/
def run {m : Type → Type} [Monad m] (o : Outlet m) : Runner → String → m Ending
  | .shell path route, command => o.launch path route.stream command
  | .listing route, command => do
    o.list route.stream command
    return .success

end Runner

end SimSweep
