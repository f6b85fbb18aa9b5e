import SimSweep.Shell.Builtin.Jobs
import SimSweep.Shell.Builtin.Places
import SimSweep.Shell.Builtin.Rich
import SimSweep.Shell.Builtin.Variables
import SimSweep.Shell.Condition
import SimSweep.Shell.Format
import SimSweep.Shell.Token

/-! # The table of built-in commands

    Printing, testing and leaving; and all commands that a shell carries out itself by
    their names, except for those that run other commands.
-/

namespace SimSweep.Shell.Builtin

open Kernel

/-! ## Section 1: Leaving -/

/-- Ends the shell. -/
def exit (args : List String) : Run Unit := do
  if let s :: _ := args then
    let n ← countOf s
    modify fun m => { m with kept := some n }
  throw .exit

/-- Leaves a function. -/
def return_ (args : List String) : Run Unit := do
  if let s :: _ := args then setStatus (← countOf s)
  throw .returns

/-- Leaves loops, or begins one anew; outside loops it does nothing. -/
def leaveLoops (leave : Nat → Leave) (args : List String) : Run Unit := do
  let n ← match args with
    | s :: _ => countOf s
    | [] => pure 1
  if n = 0 then fail ("Illegal number: " ++ args.head?.getD "")
  setStatus 0
  let n := min n (← get).loops
  if n ≠ 0 then throw (leave n)

/-! ## Section 2: Printing and testing -/

/-- What `echo` prints: its arguments with their escapes, of which one ends the
    output. -/
def echoed (lineEnd : List Char) : List String → List Char
  | [] => lineEnd
  | a :: rest =>
    let (cs, ends) := Format.argument a
    if ends then cs
    else if rest.isEmpty then cs ++ lineEnd
    else cs ++ ' ' :: echoed lineEnd rest

/-- Prints its arguments with their escapes. -/
def echo (args : List String) : Run Unit := do
  print <| String.ofList <| match args with
    | "-n" :: rest => echoed [] rest
    | words => echoed ['\n'] words
  setStatus 0

/-- Prints its arguments in a format. -/
def printf (args : List String) : Run Unit := do
  match (← splitOptions "" args).2 with
  | [] => fail "usage: printf format [arg ...]"
  | format :: rest =>
    let p := Format.print .plain format rest
    p.complaints.forM fun c => complain (c.message .plain)
    print (String.ofList p.bytes)
    setStatus p.status

/-- Tests a condition. -/
def test (words : List String) : Run Unit := do
  match ← Work.look fun w => Condition.holds w words with
  | .ok b => setStatus (if b then 0 else 1)
  | .error f => fail f.message

/-- Tests a condition before a closing bracket. -/
def bracket (args : List String) : Run Unit :=
  match args.getLast? with
  | some "]" => test args.dropLast
  | _ => fail "missing ]"

/-! ## Section 3: The table -/

/-- The built-in command of a name in the plain dialect. -/
def plain? (name : String) : Option (List String → Run Unit) :=
  match name with
  | ":" | "true" => some fun _ => setStatus 0
  | "false" => some fun _ => setStatus 1
  | "exit" => some exit
  | "return" => some return_
  | "break" => some (leaveLoops .breaks)
  | "continue" => some (leaveLoops .continues)
  | "kill" => some kill
  | "trap" => some trap
  | "echo" => some echo
  | "printf" => some printf
  | "test" => some test
  | "[" => some bracket
  | "export" => some export_
  | "readonly" => some readonly
  | "local" => some local_
  | "unset" => some unset
  | "set" => some set_
  | "shift" => some shift
  | "read" => some read
  | "getopts" => some getopts
  | "cd" | "chdir" => some cd
  | "pwd" => some pwd
  | "wait" => some wait
  | "jobs" => some jobs
  | "fg" | "bg" => some controlJob
  | "umask" => some umask
  | "times" => some fun _ => times
  | "ulimit" => some ulimit
  | "alias" => some alias_
  | "unalias" => some unalias
  | "hash" => some hash
  | _ => none

/-- The built-in command of a name. -/
def find? (dialect : Dialect) (name : String) : Option (List String → Run Unit) :=
  match dialect with
  | .plain => plain? name
  | .rich =>
    match Rich.find? name with
    | some action => some action
    | none => if name = "chdir" then none else plain? name

/-- Whether the shell ends when a built-in command fails. -/
def isSpecial (dialect : Dialect) (name : String) : Bool :=
  dialect == .plain && specialNames.contains name

/-- The built-in commands that run other commands, or tell what a name means. -/
def running : Dialect → List String
  | .plain => ["eval", "exec", "command", ".", "type"]
  | .rich => ["eval", "exec", "command", "builtin", ".", "source", "type"]

/-- Whether a name is that of a built-in command. -/
def isBuiltin (dialect : Dialect) (name : String) : Bool :=
  (find? dialect name).isSome || (running dialect).contains name

/-- The built-in commands that take assignments as arguments. -/
def isDeclaration (dialect : Dialect) (name : String) : Bool :=
  match dialect with
  | .plain => ["alias", "export", "local", "readonly"].contains name
  | .rich => declaringNames.contains name

/-- Says what a name means, at length or in short. -/
def describe (atLength : Bool) (path : String) (name : String) : Run Unit := do
  let m ← get
  let say (what short : String) : Run Unit :=
    print ((if atLength then name ++ " is " ++ what else short) ++ "\n")
  if (reservedWords .plain).contains name then say "a shell keyword" name
  else if let some text := m.aliases.lookup name then
    say ("an alias for " ++ text) ("alias " ++ name ++ "=" ++ quoted text)
  else if (m.functions.lookup name).isSome then say "a shell function" name
  else if isSpecial .plain name then say "a special shell builtin" name
  else if isBuiltin .plain name then say "a shell builtin" name
  else match m.found.lookup name with
    | some place => say ("a tracked alias for " ++ place) place
    | none =>
      let isThere ← if name.contains '/' then Work.look fun w => (w.find name).isOk else pure true
      match ← locate name path with
      | .ok place =>
        if isThere then say place place
        else
          if atLength then print (name ++ ": not found\n")
          setStatus 127
      | .error _ =>
        if atLength then print (name ++ ": not found\n")
        setStatus 127

/-- What a name may mean in the rich dialect. -/
inductive Meaning where
  | keyword
  | function
  | builtin
  | file (path : String)
  deriving DecidableEq

/-- What a name means in the rich dialect: first what goes before all else. -/
def meanings (name path : String) : Run (List Meaning) := do
  let m ← get
  let known (b : Bool) (k : Meaning) : List Meaning := if b then [k] else []
  let own := known ((reservedWords .rich).contains name) .keyword ++
    known (m.functions.lookup name).isSome .function ++ known (isBuiltin .rich name) .builtin
  let files ← Work.look fun w =>
    let isThere (p : String) : Bool := match w.find p with
      | .ok id => (w.files.node? id).any isProgram
      | .error _ => false
    if name.contains '/' then (if isThere name then [name] else [])
    else ((path.splitOn ":").map fun d => if d.isEmpty then name else d ++ "/" ++ name).filter isThere
  return own ++ files.map .file

/-- Says what a name means at length. -/
def Meaning.describe (name : String) : Meaning → String
  | .keyword => name ++ " is a shell keyword\n"
  | .function => name ++ " is a function\n"
  | .builtin => name ++ " is a shell builtin\n"
  | .file path => name ++ " is " ++ path ++ "\n"

/-- The kind of a meaning. -/
def Meaning.kind : Meaning → String
  | .keyword => "keyword"
  | .function => "function"
  | .builtin => "builtin"
  | .file _ => "file"

/-- Says what names mean. -/
def type (args : List String) : Run Unit := do
  let m ← get
  if m.dialect = .plain then
    setStatus 0
    args.forM (describe true (Machine.searched m))
  else
    let (options, names) ← splitOptions "afptP" args
    setStatus 0
    names.forM fun name => do
      let found ← meanings name m.searched
      let found := if has options 'P' then found.filter fun k => k.kind == "file"
        else if has options 'f' then found.filter (· != .function)
        else found
      let shown := if has options 'a' then found else found.take 1
      if shown.isEmpty then
        if ¬ has options 't' ∧ ¬ has options 'p' ∧ ¬ has options 'P' then
          complain (name ++ ": not found")
        setStatus 1
      shown.forM fun k =>
        if has options 't' then print (k.kind ++ "\n")
        else if has options 'p' ∨ has options 'P' then
          match k with
          | .file path => print (path ++ "\n")
          | _ => pure ()
        else print (k.describe name)

/-- Says what names mean in the rich dialect, at length or in short. -/
def identify (atLength : Bool) (path : String) (names : List String) : Run Unit := do
  let anyFound ← names.foldlM (fun (b : Bool) name => do
    match (← meanings name path).head? with
    | none =>
      if atLength then complain (name ++ ": not found")
      return b
    | some k =>
      print <| if atLength then k.describe name else match k with
        | .file path => path ++ "\n"
        | _ => name ++ "\n"
      return true) false
  setStatus (if anyFound then 0 else 1)

/-- Says what the first of some names means, at length or in short. -/
def command (args : List String) : Run Unit := do
  let (options, names) ← splitOptions "pvV" args
  setStatus 0
  let m ← get
  let path := if has options 'p' then Machine.usualPath else Machine.searched m
  if m.dialect = .rich then
    if has options 'v' ∨ has options 'V' then identify (has options 'V') path names
    return
  match names with
  | [] => pure ()
  | name :: _ =>
    if has options 'v' ∨ has options 'V' then describe (has options 'V') path name

/-! ## Section 4: Running built-in commands -/

/-- Writes what the present command has printed. The result is whether that was
    possible. -/
def flush : Run Bool := do
  let m ← get
  if m.printed.isEmpty then return true
  set { m with printed := [] }
  match ← Work.writeText 1 (String.join m.printed.reverse) with
  | .ok _ => return true
  | .error _ => return false

/-- Runs a built-in command. What it has printed is written at its end. -/
def runAs (name : String) (action : Run Unit) : Run Unit :=
  asCommand name do
    tryCatch action fun e => do
      let _ ← flush
      throw e
    if !(← flush) then
      complain (name ++ ": I/O error")
      modify fun m => { m with status := m.status ||| 1 }

end SimSweep.Shell.Builtin
