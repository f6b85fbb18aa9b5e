import SimSweep.Shell.Builtin.Options
import SimSweep.Shell.Jobs

/-! # Built-in commands on processes

    Waiting for jobs and listing them, sending signals, and handling them.
-/

namespace SimSweep.Shell.Builtin

open Kernel

/-! ## Section 1: Jobs -/

/-- The job that a text behind a percent sign names. -/
def jobOf (name : String) : Run Job := do
  let m ← get
  let noJob : String := "No such job: " ++ name
  match name.toList with
  | [] | ['%'] | ['%', '%'] | ['%', '+'] =>
    match m.jobs with
    | j :: _ => return j
    | [] => fail "No current job"
  | ['%', '-'] =>
    match m.jobs with
    | _ :: j :: _ => return j
    | _ => fail "No previous job"
  | '%' :: cs =>
    if cs.all Char.isDigit then
      match m.job? (Decimal.valueOf cs) with
      | some j => return j
      | none => fail noJob
    else
      let fits (j : Job) : Bool := match cs with
        | '?' :: inner => inner.isEmpty && !j.text.isEmpty
        | cs => (String.ofList cs).isPrefixOf j.text
      match m.jobs.filter fits with
      | [j] => return j
      | [] => fail noJob
      | _ => fail (name ++ ": ambiguous")
  | _ => fail noJob

/-- Waits for jobs, or for all of them. -/
def wait (args : List String) : Run Unit := do
  let (_, args) ← splitOptions "" args
  let cutShort : Run Unit := do
    let self ← Work.self
    let pending ← Work.look fun w => ((w.process? self).map (·.pending)).getD []
    setStatus (128 + pending.head?.getD 0)
  if args.isEmpty then
    setStatus 0
    let running := (← get).jobs.filter fun j => !j.isDone
    let ended ← running.allM fun j => awaitJob j.number true processLimit
    if !ended then cutShort
    else modify fun m => { m with jobs := m.jobs.map fun j => { j with isWaited := true } }
  else
    setStatus 127
    let _ ← args.allM fun a => do
      let job ← if a.startsWith "%" then some <$> jobOf a else do
        let id ← countOf a
        pure ((← get).jobs.find? fun j => (j.processes.getLast?.map Prod.fst) == some id)
      match job with
      | none => return true
      | some job =>
        if ← awaitJob job.number true processLimit then
          modify fun m => m.changeJob job.number fun j => { j with isWaited := true }
          setStatus ((((← get).job? job.number).map (·.status)).getD 127)
          return true
        else
          cutShort
          return false

/-- A text filled up with blanks to a column, by one blank at least if it is not beyond
    it. -/
def filledTo (column : Nat) (s : String) : String :=
  s ++ String.ofList (List.replicate (column - s.length) ' ')

/-- Lists a job: with its processes, or only the first of them, or how it is. -/
def showJob (options : List (Char × String)) (job : Job) : Run Unit := do
  let m ← get
  if (options.getLast?.map Prod.fst) = some 'p' then
    print (numberText job.leader ++ "\n")
  else
    let isLong := has options 'l'
    let place := m.jobs.findIdx fun j => j.number == job.number
    let mark := if place = 0 then "+ " else if place = 1 then "- " else "  "
    let head := "[" ++ numberText job.number ++ "] " ++ mark
    let state := if job.isDone then Job.describe job.lastExit else "Running"
    let lead := if isLong then numberText job.leader ++ " " else ""
    let others := job.processes.drop 1
    print (filledTo 33 (head ++ lead ++ state) ++ job.text)
    if isLong then
      others.forM fun (id, _) =>
        let text := filledTo head.length "" ++ numberText id
        print (" |\n" ++ filledTo 33 text)
      print "\n"
    else
      others.forM fun _ => print " | "
      print "\n"
  if job.isDone then modify (·.dropJob job.number)

/-- Lists jobs. -/
def jobs (args : List String) : Run Unit := do
  let (options, names) ← splitOptions "lp" args
  noteEnded none processLimit
  if names.isEmpty then (← get).jobs.forM (showJob options)
  else names.forM fun name => do showJob options (← jobOf name)
  setStatus 0

/-- Refuses to bring a job to the foreground or to the background: no jobs are under
    control here. -/
def controlJob (args : List String) : Run Unit := do
  let job := args.head?
  let _ ← jobOf (job.getD "%")
  fail ("job " ++ job.getD "(null)" ++ " not created under job control")

/-! ## Section 2: Signals -/

/-- Sends a signal to the process that an argument names, or asks whether it is there. A
    dash in front asks for a group of processes, of which there is none. -/
def send (signal : Option Signal) (target : String) : Run Unit := do
  let missing : Run Unit := do
    complain "No such process\n"
    setStatus 1
  match target.toList with
  | '%' :: _ =>
    let _ ← jobOf target
    missing
  | '-' :: cs =>
    let _ ← countOf (String.ofList cs)
    missing
  | _ =>
    let id ← countOf target
    let self ← Work.self
    let id := if id = 0 then self else id
    if ← Work.look fun w => (w.process? id).isSome then
      signal.forM fun s => do Work.signal id s
    else missing

/-- Says how signals are sent. -/
def killUsage : Run Unit :=
  fail "Usage: kill [-s sigspec | -signum | -sigspec] [pid | job]... or\nkill -l [exitstatus]"

/-- Sends a signal to each of some processes; none only asks whether they are there. -/
def sendAll (signal : Option Signal) (targets : List String) : Run Unit := do
  setStatus 0
  if targets.isEmpty then killUsage
  targets.forM (send signal)

/-- The signal of a name or a number, where zero is no signal; none if there is no such
    signal. -/
def signalOf? (name : String) : Option (Option Signal) :=
  if name = "0" then some none else (Signal.ofText? name).map some

/-- Prints the name of the signal that a status stands for, or all names. -/
def listSignals (args : List String) : Run Unit := do
  setStatus 0
  match args with
  | [] =>
    let names := "0" :: (List.range 65).filterMap fun n => (Signal.ofNumber? n).map (·.name)
    print (String.join (names.map (· ++ "\n")))
  | s :: _ =>
    let n ← countOf s
    match Signal.ofNumber? (if 128 < n then n - 128 else n) with
    | some signal => print (signal.name ++ "\n")
    | none => fail ("invalid signal number or exit status: " ++ s)

/-- Sends a signal, or lists signals. -/
def kill (args : List String) : Run Unit := do
  let usual : Option Signal := Signal.ofNumber? 15
  match args with
  | [] => killUsage
  | first :: rest =>
    match first.toList with
    | '-' :: letters =>
      match signalOf? (String.ofList letters), letters, rest with
      | some signal, _, _ => sendAll signal rest
      | none, ['l'], _ => listSignals rest
      | none, ['-'], _ => sendAll usual rest
      | none, ['s'], name :: targets =>
        match signalOf? name with
        | some signal => sendAll signal targets
        | none => fail ("invalid signal number or name: " ++ name)
      | none, ['s'], [] => fail "No arg for -s option"
      | none, c :: _, _ => fail ("Illegal option -" ++ String.singleton c)
      | none, [], _ => sendAll usual args
    | _ => sendAll usual args

/-- The name of a condition for a trap. -/
def conditionName (number : Nat) : String :=
  if number = 0 then "EXIT" else ((Signal.ofNumber? number).map (·.name)).getD ""

/-- The number of a condition for a trap: a signal, or the end of the shell. -/
def condition? (s : String) : Option Nat :=
  if s = "0" ∨ s.map Char.toUpper = "EXIT" then some 0 else (Signal.ofText? s).map (·.number)

/-- Sets what is done about a signal; nothing stands for its usual effect. -/
def handle (number : Nat) (action : Option String) : Run Unit := do
  let m ← get
  if number = 0 ∨ m.ignored.contains number then return
  Work.change fun w => w.changeSelf fun p =>
    let p : Process := { p with
      caught := p.caught.filter (· != number)
      ignored := p.ignored.filter (· != number) }
    match action with
    | none => p
    | some "" => { p with ignored := number :: p.ignored }
    | some _ => { p with caught := number :: p.caught }

/-- Sets the command for conditions, in order and up to one that there is not. -/
def setTraps (action : Option String) : List String → Run Unit
  | [] => pure ()
  | s :: rest => do
    match condition? s with
    | none =>
      emit 2 ("trap: " ++ s ++ ": bad trap\n")
      setStatus 1
    | some n =>
      modify fun m =>
        let others := m.traps.filter fun (k, _) => k != n
        { m with traps := match action with
          | some command => (n, command) :: others
          | none => others }
      handle n action
      setTraps action rest

/-- Sets the command for conditions, or lists the commands. -/
def trap (args : List String) : Run Unit := do
  setStatus 0
  let (_, args) ← splitOptions "" args
  match args with
  | [] =>
    let traps := (← get).traps.mergeSort fun a b => a.1 ≤ b.1
    traps.forM fun (n, command) =>
      print ("trap -- " ++ quoted command ++ " " ++ conditionName n ++ "\n")
  | [s] => setTraps none [s]
  | a :: rest =>
    if ¬ a.isEmpty ∧ a.toList.all Char.isDigit then setTraps none (a :: rest)
    else setTraps (if a = "-" then none else some a) rest

end SimSweep.Shell.Builtin
