import SimSweep.Shell.Machine

/-! # Jobs

    Processes that a shell has started together. While the shell waits for one job, it
    takes notice of the end of any of its children, and says of those of that job that
    a signal has ended them.
-/

namespace SimSweep.Shell

open Kernel

namespace Job

/-- Whether all processes have ended. -/
def isDone (j : Job) : Bool := j.processes.all fun (_, exit) => exit.isSome

/-- The status that stands for the way in which a process ended. -/
def statusOf : Exit → Nat
  | .status code => code
  | .signal number => 128 + number

/-- How the last process ended. -/
def lastExit (j : Job) : Exit :=
  match j.processes.getLast? with
  | some (_, some exit) => exit
  | _ => .status 0

/-- The status of the last process. -/
def status (j : Job) : Nat := statusOf j.lastExit

/-- The statuses of the processes. -/
def statuses (j : Job) : List Nat := j.processes.map fun (_, exit) => (exit.map statusOf).getD 0

/-- The first process. -/
def leader (j : Job) : Nat := (j.processes.head?.map Prod.fst).getD 0

/-- What is said of a process that has ended, at length. -/
def describe : Exit → String
  | .status 0 => "Done"
  | .status code => "Done(" ++ numberText code ++ ")"
  | .signal number => ((Signal.ofNumber? number).map (·.description)).getD ""

end Job

namespace Machine

/-- The job of a number. -/
def job? (m : Machine) (number : Nat) : Option Job := m.jobs.find? (·.number == number)

/-- Forgets a job. -/
def dropJob (m : Machine) (number : Nat) : Machine :=
  { m with jobs := m.jobs.filter (·.number != number) }

/-- Changes a job. -/
def changeJob (m : Machine) (number : Nat) (f : Job → Job) : Machine :=
  { m with jobs := m.jobs.map fun j => if j.number == number then f j else j }

/-- The number for a new job: the least that is not in use, where a job that has ended
    and was waited for is not. -/
def freeJobNumber (m : Machine) : Nat :=
  let used := (m.jobs.filter fun j => !(j.isDone && j.isWaited)).map (·.number)
  ((List.range (used.length + 1)).find? fun n => !used.contains (n + 1)).getD 0 + 1

/-- Adds a job and returns its number. -/
def addJob (m : Machine) (processes : List Nat) : Machine × Nat :=
  let number := m.freeJobNumber
  let m := m.dropJob number
  ({ m with jobs := { number, processes := processes.map (·, none) } :: m.jobs }, number)

end Machine

/-- Takes notice of the end of a child, if there is one that has ended; otherwise waits
    for one if wanted, as long as there are children, and maybe only until a signal has
    to be handled. The result is the child. -/
def takeEnded (blocks isCutShort : Bool) : Run (Option (Nat × Exit)) := do
  let self ← Work.self
  if blocks then
    Work.await fun w =>
      (Work.endedChild? w self fun _ => true).isSome ||
        !w.processes.any (fun p => p.parent == self) || (isCutShort && Work.isCalled self w)
  Work.act fun w =>
    match Work.endedChild? w self fun _ => true with
    | some (id, exit) => (some (id, exit), w.forget id)
    | none => (none, w)

/-- Takes notice of the end of a child while a job is waited for. -/
def noteEnd (id : Nat) (exit : Exit) (waited : Option Nat) : Run Unit := do
  let m ← get
  match m.jobs.find? fun j => !j.isDone && j.processes.any (·.1 == id) with
  | none => pure ()
  | some job =>
    set (m.changeJob job.number fun j =>
      { j with processes := j.processes.map fun (p, e) => if p == id then (p, some exit) else (p, e) })
    match exit with
    | .signal number =>
      if waited = some job.number then
        if let some s := Signal.ofNumber? number then
          if s.isReported then emit 2 (s.description ++ "\n")
    | .status _ => pure ()

/-- Takes notice of all children that have ended by now. The number bounds them. -/
def noteEnded (waited : Option Nat) : Nat → Run Unit
  | 0 => pure ()
  | fuel + 1 => do
    match ← takeEnded false false with
    | none => pure ()
    | some (id, exit) =>
      noteEnd id exit waited
      noteEnded waited fuel

/-- The most processes that are waited for in a row. -/
def processLimit : Nat := 1000000000

/-- Waits until the processes of a job have ended. The result is whether they have: a
    signal may have come in, if it is not to wait. -/
def awaitJob (number : Nat) (isCutShort : Bool) : Nat → Run Bool
  | 0 => return true
  | fuel + 1 => do
    match (← get).job? number with
    | none => return true
    | some job =>
      if job.isDone then return true
      match ← takeEnded true isCutShort with
      | some (id, exit) =>
        noteEnd id exit (some number)
        awaitJob number isCutShort fuel
      | none =>
        let self ← Work.self
        if isCutShort then
          if ← Work.look (Work.isCalled self) then return false
        return true

/-- Waits for the end of processes that were started together, and takes over the status
    of the last of them. -/
def finishJob (number : Nat) : Run Unit := do
  let _ ← awaitJob number false processLimit
  modify fun m =>
    let statuses := ((m.job? number).map (·.statuses)).getD [0]
    let failed := if m.isOn "pipefail" then statuses.reverse.find? (· ≠ 0) else none
    { m.dropJob number with status := failed.getD (statuses.getLast?.getD 0), statuses }

/-- Waits for the end of a process that was started, and takes over its status. -/
def finishProcess (id : Nat) : Run Unit := do
  let number ← modifyGet fun m =>
    let (m, number) := m.addJob [id]
    (number, m)
  finishJob number

end SimSweep.Shell
