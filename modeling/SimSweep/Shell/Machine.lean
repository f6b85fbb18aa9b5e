import SimSweep.Kernel.Work
import SimSweep.Number.Reading
import SimSweep.Shell.Elements
import SimSweep.Shell.Tree

/-! # The state of a shell

    What a shell holds while it runs commands: its variables, functions, arguments and
    options, its jobs, and the descriptors that it has put aside. What a shell does is
    a task of the system that it runs in, with this state and with ways to leave what
    it is doing.
-/

namespace SimSweep.Shell

open Kernel

/-- Why commands are left before their end. -/
inductive Leave where
  /-- The shell ends with its present status. -/
  | exit
  /-- A built-in command has failed; the shell ends unless it goes on all the same. -/
  | failed
  | breaks (levels : Nat)
  | continues (levels : Nat)
  /-- A function is left. -/
  | returns
  /-- The commands of the line are left. -/
  | discarded
  deriving DecidableEq

/-- A variable. -/
structure Variable where
  name : String
  value : Option String
  isExported : Bool := false
  isFrozen : Bool := false
  /-- The elements of a list. -/
  elements : Option Elements := none
  /-- Whether what is assigned is evaluated as an expression. -/
  isNumber : Bool := false
  /-- Whether what is assigned is brought to capital letters, or to small ones. -/
  isUpper : Option Bool := none

namespace Variable

/-- The text of a variable; that of a list is its first element. -/
def text? (v : Variable) : Option String :=
  match v.elements with
  | some e => e.get? "0"
  | none => v.value

/-- The variable with another text. -/
def withText (v : Variable) (s : String) : Variable :=
  match v.elements with
  | some e => { v with elements := some (e.put "0" s) }
  | none => { v with value := some s }

end Variable

/-- What a scope changed and will be changed back. -/
inductive Shadow where
  /-- A variable, as it was before if it was there. -/
  | variable (name : String) (before : Option Variable)
  /-- The options that were on. -/
  | options (before : List String)

/-- A descriptor before it was redirected. -/
structure Saved where
  number : Nat
  /-- Where it was put aside, unless it was closed. -/
  copy : Option Nat

/-- Commands that were started together. -/
structure Job where
  number : Nat
  /-- The processes, with how they ended, if they have. -/
  processes : List (Nat × Option Exit)
  /-- Whether its end was waited for. -/
  isWaited : Bool := false
  stopped : Option Nat := none
  /-- What it says, for shells that list their jobs with their commands. -/
  text : String := ""

/-- The state of a shell. -/
structure Machine where
  dialect : Dialect := .plain
  /-- The name that the shell gives itself in complaints. -/
  name : String
  /-- The built-in command that is being run, which is named in complaints. -/
  command : Option String := none
  /-- The number of the process in which the shell started. -/
  process : Nat
  arguments : List String := []
  bindings : List Variable := []
  /-- The scopes of functions and commands, innermost first. -/
  scopes : List (List Shadow) := []
  functions : List (String × Command) := []
  /-- The number of functions that are being run. -/
  depth : Nat := 0
  aliases : List (String × String) := []
  documents : Documents := []
  nextDocument : Nat := 0
  status : Nat := 0
  /-- The status with which the shell is to end, if that is known. -/
  kept : Option Nat := none
  /-- The status of the last substitution in the present command. -/
  substituted : Nat := 0
  line : Nat := 1
  /-- The commands for signals; zero stands for the end of the shell. -/
  traps : List (Nat × String) := []
  /-- The signals that were ignored when the shell started. -/
  ignored : List Nat := []
  /-- The names of the options that are on. -/
  options : List String := []
  /-- The number of loops that are being run. -/
  loops : Nat := 0
  /-- The jobs, the last one first. -/
  jobs : List Job := []
  lastBackground : Option Nat := none
  /-- How far the letters of the present argument have been taken as options. -/
  optionOffset : Nat := 0
  /-- The value that the index of options had after it was last changed. -/
  optionIndex : Nat := 1
  /-- The path of the present directory as it was reached. -/
  directory : String := ""
  /-- What the present built-in command has printed so far. -/
  printed : List String := []
  /-- The descriptors that were put aside, by the commands that redirected them. -/
  saved : List (List Saved) := []
  /-- The places where programs were found. -/
  found : List (String × String) := []
  /-- The limits that were set, by their letters. -/
  limits : List (Char × String) := []
  /-- What the text is called whose commands are being read, in complaints about it. -/
  source : String := ""
  /-- The name of the function that is being run, and of those that called it. -/
  callers : List String := []
  /-- The number of scripts that are being read one inside the other. -/
  scripts : Nat := 0
  /-- The descriptors of pipes that are open while the present command is run. -/
  channels : List Nat := []
  /-- The statuses of the commands of the last pipeline. -/
  statuses : List Nat := [0]

/-- Something that a shell does. -/
def Run (α : Type) : Type :=
  Machine → (α → Machine → Behavior) → (Leave → Machine → Behavior) → Behavior

namespace Run

instance : Monad Run where
  pure a := fun m done _ => done a m
  bind x f := fun m done left => x m (fun a m => f a m done left) left

instance : MonadStateOf Machine Run where
  get := fun m done _ => done m m
  set m := fun _ done _ => done () m
  modifyGet f := fun m done _ => let (a, m) := f m; done a m

instance : MonadExceptOf Leave Run where
  throw e := fun m _ left => left e m
  tryCatch x handle := fun m done left => x m done fun e m => handle e m done left

instance : MonadLift Work Run where
  monadLift t := fun m done _ => t fun a => done a m

/-- The task of a shell from a state on. However it is left, its status is the
    result. -/
def toTask (x : Run Unit) (m : Machine) : Work Nat := fun done =>
  x m (fun _ m => done m.status) (fun _ m => done m.status)

/-- Starts a process that does something in a copy of the shell. The result is its
    number. -/
def fork (child : Run Unit) : Run Nat := fun m done _ =>
  Work.fork (toTask child m) fun id => done id m

end Run

/-- A decimal number as a string. -/
def numberText (n : Nat) : String := String.ofList (Decimal.digitsOf n)

namespace Machine

/-! ## Section 1: Options and variables -/

/-- The options of a shell: their letters and their names. -/
def optionNames : Dialect → List (Option Char × String)
  | .rich =>
    [(some 'a', "allexport"), (some 'B', "braceexpand"), (none, "emacs"), (some 'e', "errexit"),
     (some 'E', "errtrace"), (some 'T', "functrace"), (some 'h', "hashall"),
     (some 'H', "histexpand"), (none, "history"), (none, "ignoreeof"),
     (none, "interactive-comments"), (some 'k', "keyword"), (some 'm', "monitor"),
     (some 'C', "noclobber"), (some 'n', "noexec"), (some 'f', "noglob"), (none, "nolog"),
     (some 'b', "notify"), (some 'u', "nounset"), (some 't', "onecmd"), (some 'P', "physical"),
     (none, "pipefail"), (none, "posix"), (some 'p', "privileged"), (some 'v', "verbose"),
     (none, "vi"), (some 'x', "xtrace")]
  | .plain =>
  [(some 'e', "errexit"), (some 'f', "noglob"), (some 'I', "ignoreeof"), (some 'i', "interactive"),
   (some 'm', "monitor"), (some 'n', "noexec"), (some 's', "stdin"), (some 'x', "xtrace"),
   (some 'v', "verbose"), (some 'V', "vi"), (some 'E', "emacs"), (some 'C', "noclobber"),
   (some 'a', "allexport"), (some 'b', "notify"), (some 'u', "nounset"), (some 'p', "privileged"),
   (none, "nolog"), (none, "debug")]

/-- Whether an option is on. -/
def isOn (m : Machine) (option : String) : Bool := m.options.contains option

/-- Switches an option on or off. -/
def switch (m : Machine) (option : String) (on : Bool) : Machine :=
  let others := m.options.filter (· != option)
  { m with options := if on then option :: others else others }

/-- The letters of the options that are on. -/
def optionLetters (m : Machine) : String :=
  let letters :=
    (optionNames m.dialect).filterMap fun (letter, name) => if m.isOn name then letter else none
  String.ofList <| match m.dialect with
    | .plain => letters.reverse
    | .rich =>
      "abefhikmnprtuvxBCEHPT".toList.filter letters.contains ++
        (if m.isOn "stdin" then ['s'] else if m.source = "-c" then ['c'] else [])

/-- The variable of a name. -/
def binding? (m : Machine) (name : String) : Option Variable :=
  m.bindings.find? (·.name == name)

/-- The value of a variable. -/
def valueOf? (m : Machine) (name : String) : Option String := (m.binding? name).bind (·.text?)

/-- Puts a variable in the place of the one of its name, or behind all others. -/
def putVariable (m : Machine) (v : Variable) : Machine :=
  if m.bindings.any (·.name == v.name) then
    { m with bindings := m.bindings.map fun u => if u.name == v.name then v else u }
  else { m with bindings := m.bindings ++ [v] }

/-- Gives a variable a value. -/
def setVariable (m : Machine) (name value : String) : Machine :=
  let v := (m.binding? name).getD { name, value := none }
  m.putVariable { v.withText value with isExported := v.isExported || m.isOn "allexport" }

/-- Removes a variable. -/
def dropVariable (m : Machine) (name : String) : Machine :=
  { m with bindings := m.bindings.filter (·.name != name) }

/-- The value of a parameter. -/
def parameter? (m : Machine) (name : String) : Option String :=
  match name.toList with
  | ['?'] => some (numberText m.status)
  | ['$'] => some (numberText m.process)
  | ['#'] => some (numberText m.arguments.length)
  | ['!'] => m.lastBackground.map numberText
  | ['-'] => some m.optionLetters
  | ['0'] => some m.name
  | ['@'] | ['*'] => if m.arguments.isEmpty then none else some (" ".intercalate m.arguments)
  | cs =>
    if cs.head?.any Char.isDigit then m.arguments[Decimal.valueOf cs - 1]? else m.valueOf? name

/-- The characters at which unquoted values are split. -/
def separators (m : Machine) : List Char :=
  match m.valueOf? "IFS" with
  | some s => s.toList
  | none => [' ', '\t', '\n']

/-- The row of a table in which a name is kept. -/
def row (rows : Nat) (name : String) : Nat :=
  match name.toList with
  | [] => 0
  | c :: cs => ((c.toNat * 16) + (c :: cs).foldl (fun n d => n + d.toNat) 0) % rows

/-- How many rows the tables of variables and aliases have. -/
def nameRows : Nat := 39

/-- How many rows the table of programs has. -/
def programRows : Nat := 31

/-- The variables that children see, in the order in which they see them. -/
def environment (m : Machine) : List (String × String) :=
  let pairs := m.bindings.filterMap fun v =>
    if v.isExported then v.value.map fun value => (v.name, value) else none
  pairs.mergeSort fun a b => row nameRows a.1 ≤ row nameRows b.1

/-- The directories in which programs are looked for if none are named. -/
def usualPath : String :=
  "/usr/local/sbin:/usr/local/bin:/usr/sbin:/usr/bin:/sbin:/bin"

/-- The directories in which programs are looked for. -/
def searched (m : Machine) : String := (m.valueOf? "PATH").getD usualPath

end Machine

/-! ## Section 2: Actions -/

/-- Sets the status. -/
def setStatus (n : Nat) : Run Unit := modify fun m => { m with status := n }

/-- Writes a text to a descriptor that may lead nowhere. -/
def emit (descriptor : Nat) (s : String) : Run Unit := do
  let _ ← Work.writeText descriptor s

/-- Prints a text to the standard output, at the end of the present command. -/
def print (s : String) : Run Unit := modify fun m => { m with printed := s :: m.printed }

/-- The name of the shell, the line and the command that are named in complaints. -/
def Machine.herald (m : Machine) : String :=
  let name :=
    if m.dialect = .rich ∧ ¬ m.callers.isEmpty ∧ m.source = "-c" then "environment" else m.name
  let line := match m.dialect with
    | .plain => numberText m.line
    | .rich => "line " ++ numberText m.line
  name ++ ": " ++ line ++ ": " ++ match m.command with
    | some s => s ++ ": "
    | none => ""

/-- Complains to the standard error stream in the name of the shell, and of the
    built-in command that is being run. -/
def complain (message : String) : Run Unit := do
  emit 2 ((← get).herald ++ message ++ "\n")

/-- Complains and sets a status. -/
def refuse (message : String) (status : Nat) : Run Unit := do
  complain message
  setStatus status

/-- Complains and ends the built-in command that is being run, or the shell. -/
def fail {α : Type} (message : String) : Run α := do
  complain message
  setStatus (if (← get).dialect = .rich then 1 else 2)
  throw .failed

/-- Complains in the name of the shell alone, and ends what is being run. -/
def failPlainly {α : Type} (message : String) : Run α := do
  emit 2 ({ ← get with command := none }.herald ++ message ++ "\n")
  setStatus 1
  throw .failed

/-- Complains that something is called wrongly, and ends the built-in command. -/
def misuse {α : Type} (message : String) : Run α := do
  complain message
  setStatus 2
  throw .failed

/-- Refuses to change a variable. -/
def refuseChange {α : Type} (name : String) : Run α := do
  if (← get).dialect = .rich then failPlainly (name ++ ": readonly variable")
  else fail (name ++ ": is read only")

/-- Changes that follow a new value of some variables. -/
def Machine.noticing (m : Machine) (name value : String) : Machine :=
  if name = "OPTIND" then
    { m with optionIndex := Decimal.valueOf (value.toList.takeWhile Char.isDigit)
             optionOffset := 0 }
  else if name = "PATH" then { m with found := [] }
  else m

/-- Sets a variable, unless its name is none, or it may not be changed. -/
def assign (name value : String) : Run Unit := do
  let m ← get
  if ¬ isName name.toList then
    if m.dialect = .rich then fail ("\x60" ++ name ++ "': not a valid identifier")
    else fail (name ++ ": bad variable name")
  match m.binding? name with
  | some { isFrozen := true, .. } => refuseChange name
  | _ => set ((m.setVariable name value).noticing name value)

/-- Removes a variable, unless it may not be changed. -/
def unassign (name : String) : Run Unit := do
  let m ← get
  match m.binding? name with
  | some { isFrozen := true, .. } =>
    if m.dialect = .rich then fail (name ++ ": cannot unset: readonly variable")
    else refuseChange name
  | _ => set (m.dropVariable name)

/-- Notes in the innermost scope how a variable was, and gives it a value there if there
    is one. -/
def shadow (name : String) (value : Option String) (exports : Bool) : Run Unit := do
  let m ← get
  match m.scopes with
  | [] => pure ()
  | scope :: outer =>
    let before := m.binding? name
    set { m with scopes := (.variable name before :: scope) :: outer }
  match value with
  | some s =>
    assign name s
    if exports then
      modify fun m => match m.binding? name with
        | some v => m.putVariable { v with isExported := true }
        | none => m
  | none => pure ()

/-- Takes back what the innermost scope has changed. -/
def Machine.closeScope (m : Machine) : Machine :=
  match m.scopes with
  | [] => m
  | scope :: outer =>
    scope.foldl (fun m shadow => match shadow with
      | .options before => { m with options := before }
      | .variable name none => (m.dropVariable name).noticing name ""
      | .variable name (some v) => (m.putVariable v).noticing name (v.value.getD ""))
      { m with scopes := outer }

/-- Runs an action in a scope of its own. -/
def inScope {α : Type} (action : Run α) : Run α := do
  let depth := (← get).scopes.length
  modify fun m => { m with scopes := [] :: m.scopes }
  let leave : Run Unit := modify fun m =>
    if depth < m.scopes.length then m.closeScope else m
  let result ← tryCatch action fun e => do
    leave
    throw e
  leave
  return result

/-- Runs an action as the built-in command of a name. -/
def asCommand {α : Type} (name : String) (action : Run α) : Run α := do
  let before := (← get).command
  modify fun m => { m with command := some name }
  let leave : Run Unit := modify fun m => { m with command := before }
  let result ← tryCatch action fun e => do
    leave
    throw e
  leave
  return result

end SimSweep.Shell
