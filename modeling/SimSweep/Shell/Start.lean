import SimSweep.Shell.Execution

/-! # Starting a shell

    A shell takes its variables from the environment, and finds out from its arguments
    where its commands are: in an argument, in a file, or in its input.
-/

namespace SimSweep.Shell

open Kernel

/-- The long options of the rich dialect that make no difference here. -/
def silentOptions : List String :=
  ["--login", "--noediting", "--noprofile", "--norc", "--posix", "--restricted", "--verbose"]

/-- How a shell of the rich dialect is called. -/
def startUsage : String :=
  let long := ["debug", "debugger", "dump-po-strings", "dump-strings", "help", "init-file", "login",
    "noediting", "noprofile", "norc", "posix", "pretty-print", "rcfile", "restricted", "verbose",
    "version"]
  "Usage:\tbash [GNU long option] [option] ...\n" ++
  "\tbash [GNU long option] [option] script-file ...\n" ++
  "GNU long options:\n" ++ String.join (long.map fun s => "\t--" ++ s ++ "\n") ++
  "Shell options:\n\t-ilrsD or -c command or -O shopt_option\t\t(invocation only)\n" ++
  "\t-abefhkmnptuvxBCEHPT or -o option\n"

/-- Refuses an option of a shell of the rich dialect, and ends it. -/
def refuseStart {α : Type} (option : String) : Run α := do
  emit 2 ((← get).name ++ ": " ++ option ++ ": invalid option\n" ++ startUsage)
  modify fun m => { m with status := 2, kept := none }
  throw .exit

/-- Takes the options in front of the arguments of a shell. The result is whether an
    argument holds its commands, and what is left. The number bounds the arguments. -/
def startOptions : Nat → Bool → List String → Run (Bool × List String)
  | 0, hasText, args => return (hasText, args)
  | _, hasText, [] => return (hasText, [])
  | fuel + 1, hasText, a :: rest => do
    let isRich := (← get).dialect = .rich
    let letters (on : Bool) (cs : List Char) : Run (Bool × List String) := do
      match cs.find? fun c => isRich && !"abefhkmnptuvxBCEHPTcoilrsDO".toList.contains c with
      | some c => refuseStart ((if on then "-" else "+") ++ String.singleton c)
      | none => pure ()
      let own : List Char := if isRich then "clirsDO".toList else "cl".toList
      let left ← Builtin.switchLetters on (cs.filter fun c => !own.contains c) rest
      if isRich ∧ cs.contains 's' then modify fun m => m.switch "stdin" true
      startOptions fuel (hasText || cs.contains 'c') left
    match a.toList with
    | ['-'] | ['-', '-'] => return (hasText, rest)
    | '-' :: '-' :: _ =>
      if isRich then
        if silentOptions.contains a then startOptions fuel hasText rest else refuseStart a
      else letters true (a.toList.drop 1)
    | '-' :: cs => letters true cs
    | '+' :: cs => letters false cs
    | _ => return (hasText, a :: rest)

/-- Runs the commands in the input of a shell. -/
def runInput (host : Host) : Run Unit := do
  match ← Work.readAll 0 with
  | .ok bytes =>
    let _ ← runFile host depthLimit (Octets.ofBytes bytes)
  | .error _ => pure ()

/-- The text of the script of a shell of the rich dialect. -/
def richScript (path : String) : Run String := do
  let refuse {α : Type} (message : String) (status : Nat) : Run α := do
    emit 2 (message ++ "\n")
    modify fun m => { m with status, kept := none }
    throw .exit
  let isDirectory ← Work.look fun w => match w.find path with
    | .ok id => (w.files.contentOf id).isDirectory
    | .error _ => false
  if isDirectory then refuse (path ++ ": " ++ path ++ ": Is a directory") 126
  match ← Work.openFile path { reads := true } with
  | .error f => refuse ((← get).name ++ ": " ++ path ++ ": " ++ f.message) 127
  | .ok n =>
    let bytes ← Work.readAll n
    Work.close n
    match bytes with
    | .ok bytes => return Octets.ofBytes bytes
    | .error f => refuse ((← get).name ++ ": " ++ path ++ ": " ++ f.message) 126

/-- Finds the commands of a shell, and runs them. -/
def runArguments (host : Host) (args : List String) : Run Unit := do
  let (hasText, rest) ← startOptions (args.length + 1) false args
  let _ ← Builtin.flush
  let name (words : List String) : Run Unit :=
    match words with
    | [] => pure ()
    | name :: arguments => modify fun m => { m with name, arguments }
  match hasText, rest with
  | true, [] =>
    if (← get).dialect = .rich then
      emit 2 ((← get).name ++ ": -c: option requires an argument\n")
      setStatus 2
    else fail "-c requires an argument"
  | true, text :: words =>
    name words
    modify fun m => { m with source := if m.dialect = .rich then "-c" else "" }
    let isRich := (← get).dialect = .rich
    let _ ← runText host depthLimit { isLast := isRich } text
    if (← get).isOn "stdin" then runInput host
  | false, words =>
    if words.isEmpty ∨ (← get).isOn "stdin" then
      modify fun m => { m.switch "stdin" true with arguments := words }
      runInput host
    else
      let path := words.head?.getD ""
      let text ← if (← get).dialect = .rich then richScript path else scriptText path
      name words
      let _ ← runFile host depthLimit text

/-- A shell before it has looked at its arguments. -/
def Machine.ofCall (dialect : Dialect) (call : Call) (self : Process) (directory : String) :
    Machine :=
  match dialect with
  | .plain => plainStart call self directory
  | .rich => richStart call self directory
where
  /-- The variables that are given to a shell. -/
  given (call : Call) : List Variable := call.environment.filterMap fun (name, value) =>
    if isName name.toList then some { name, value := some value, isExported := true } else none
  /-- A shell of the plain dialect. -/
  plainStart (call : Call) (self : Process) (directory : String) : Machine :=
    let fixed : List Variable :=
      [{ name := "IFS", value := some " \t\n" }, { name := "OPTIND", value := some "1" },
       { name := "PPID", value := some (numberText self.parent) },
       { name := "PWD", value := some directory, isExported := true }]
    let usual : List Variable :=
      [{ name := "PATH", value := some usualPath }, { name := "PS1", value := some "# " },
       { name := "PS2", value := some "> " }, { name := "PS4", value := some "+ " }]
    let start : Machine :=
      { name := call.name, process := self.id, line := 0, ignored := self.ignored, directory }
    (usual ++ given call ++ fixed).foldl putVariable start
  /-- A shell of the rich dialect. -/
  richStart (call : Call) (self : Process) (directory : String) : Machine :=
    let depth := ((call.environment.lookup "SHLVL").bind fun s => Numeral.integer? s).getD 0
    let version := ["5", "2", "21", "1", "release", "x86_64-pc-linux-gnu"]
    let usual : List Variable :=
      [{ name := "PATH", value := some usualPath }, { name := "TERM", value := some "dumb" },
       { name := "BASH", value := some call.path },
       { name := "BASH_VERSION", value := some "5.2.21(1)-release" },
       { name := "BASH_VERSINFO", value := none, elements := some (.ofList version)
         isFrozen := true },
       { name := "HOSTTYPE", value := some "x86_64" },
       { name := "MACHTYPE", value := some "x86_64-pc-linux-gnu" },
       { name := "OSTYPE", value := some "linux-gnu" }, { name := "OPTERR", value := some "1" },
       { name := "HOSTNAME", value := some "localhost" },
       { name := "GROUPS", value := some "0" }, { name := "DIRSTACK", value := some directory },
       { name := "SHELL", value := some "/bin/bash" }, { name := "PS4", value := some "+ " }]
    let number (name value : String) : Variable :=
      { name, value := some value, isNumber := true, isFrozen := true }
    let fixed : List Variable :=
      [{ name := "IFS", value := some " \t\n" }, { name := "OPTIND", value := some "1" },
       number "PPID" (numberText self.parent), number "UID" "0", number "EUID" "0",
       { name := "BASH_SUBSHELL", value := some "0" },
       { name := "OLDPWD", value := call.environment.lookup "OLDPWD", isExported := true },
       { name := "PWD", value := some directory, isExported := true },
       { name := "SHLVL", value := some (wholeText (depth + 1)), isExported := true }]
    let on := (Builtin.Rich.furtherOptions.filter (·.2)).map Prod.fst
    let start : Machine :=
      { dialect := .rich, name := call.name, process := self.id, line := 0
        ignored := self.ignored, directory
        options := on ++ ["hashall", "braceexpand", "interactive-comments"] }
    (usual ++ given call ++ fixed).foldl putVariable start

/-- Runs a shell. Its status is the result. -/
def run (dialect : Dialect) (host : Host) (call : Call) : Work Nat := do
  let (self, physical) ← Work.look fun w => (w.self, w.files.pathOf w.self.directory)
  let named := (call.environment.lookup "PWD").getD ""
  let isRight ← Work.look fun w =>
    named.startsWith "/" && (w.find named).toOption == some self.directory
  let directory := if isRight then named else physical
  Run.toTask (runToEnd host depthLimit (runArguments host call.args))
    (.ofCall dialect call self directory)

end SimSweep.Shell
