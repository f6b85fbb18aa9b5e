import SimSweep.Shell.Start
import SimSweep.Tool.Awk.Run
import SimSweep.Tool.Columns
import SimSweep.Tool.Compare
import SimSweep.Tool.Dump
import SimSweep.Tool.Edit.Run
import SimSweep.Tool.Expression
import SimSweep.Tool.Facts
import SimSweep.Tool.Finding
import SimSweep.Tool.Grep
import SimSweep.Tool.Order
import SimSweep.Tool.Paths
import SimSweep.Tool.Plain
import SimSweep.Tool.Running
import SimSweep.Tool.Sequence
import SimSweep.Tool.Translate

/-! # The programs of the system

    All programs by their names, and how a file is run: as a program of the system, or
    as a script by the program that its first line names.
-/

namespace SimSweep.Tool

open Kernel

/-! ## Section 1: Programs by name -/

/-- The program of a name, if it is one that runs no others. -/
def plain? (name : String) : Option (Deed Nat) :=
  match name with
  | "true" => some (pure 0)
  | "false" => some (pure 1)
  | "echo" => some echo
  | "printf" => some printf
  | "test" => some (test false)
  | "[" => some (test true)
  | "kill" => some kill
  | "cat" => some cat
  | "tee" => some tee
  | "head" => some head
  | "tail" => some tail
  | "tac" => some tac
  | "rev" => some rev
  | "nl" => some nl
  | "wc" => some wc
  | "yes" => some yes
  | "seq" => some seq
  | "expr" => some Expression.tool
  | "basename" => some basename
  | "dirname" => some dirname
  | "pwd" => some pwd
  | "realpath" => some realpath
  | "readlink" => some readlink
  | "cut" => some cut
  | "paste" => some paste
  | "fold" => some fold
  | "expand" => some expand
  | "tr" => some Translate.tool
  | "sort" => some sort
  | "uniq" => some uniq
  | "comm" => some comm
  | "grep" => some (Grep.tool none)
  | "egrep" => some (Grep.tool (some 'E'))
  | "fgrep" => some (Grep.tool (some 'F'))
  | "sed" => some Edit.tool
  | "sleep" => some sleep
  | "touch" => some touch
  | "mkdir" => some mkdir
  | "rmdir" => some rmdir
  | "rm" => some rm
  | "cp" => some cp
  | "mv" => some mv
  | "ln" => some ln
  | "chmod" => some chmod
  | "mkfifo" => some mkfifo
  | "mktemp" => some mktemp
  | "ls" => some ls
  | "stat" => some stat
  | "uname" => some uname
  | "arch" => some arch
  | "hostname" => some hostname
  | "whoami" => some whoami
  | "id" => some id_
  | "groups" => some groups
  | "nproc" => some nproc
  | "tty" => some tty
  | "which" => some which
  | "date" => some date
  | "od" => some od
  | "base64" => some base64
  | "dd" => some dd
  | "cmp" => some cmp
  | "diff" => some diff
  | "printenv" => some printenv
  | _ => none

/-- The program of a name, if it is one that runs others. -/
def running? (host : Host) (name : String) : Option (Deed Nat) :=
  match name with
  | "awk" | "mawk" => some (Awk.tool host)
  | "env" => some (env host)
  | "find" => some (Finding.tool host)
  | "nice" => some (nice host)
  | "nohup" => some (nohup host)
  | "timeout" => some (timeout host)
  | "xargs" => some (xargs host)
  | _ => none

/-- The names of the programs. -/
def names : List String :=
  ["[", "arch", "awk", "base64", "basename", "bash", "cat", "chmod", "cmp", "comm", "cp", "cut",
   "dash", "date", "dd", "diff", "dirname", "echo", "egrep", "env", "expand", "expr", "false",
   "fgrep", "find", "fold", "grep", "groups", "head", "hostname", "id", "kill", "ln", "ls",
   "mawk", "mkdir", "mkfifo", "mktemp", "mv", "nice", "nl", "nohup", "nproc", "od", "paste",
   "printenv", "printf", "pwd", "readlink", "realpath", "rev", "rm", "rmdir", "sed", "seq", "sh",
   "sleep", "sort", "stat", "tac", "tail", "tee", "test", "timeout", "touch", "tr", "true",
   "tty", "uname", "uniq", "wc", "which", "whoami", "xargs", "yes"]

/-- Does what the program of a name does. -/
def perform (host : Host) (name : String) (call : Call) : Work Nat :=
  if name = "sh" ∨ name = "dash" then Shell.run .plain host call
  else if name = "bash" then Shell.run .rich host call
  else match plain? name, running? host name with
    | some deed, _ | none, some deed => deed.toWork call
    | none, none => pure 127

/-! ## Section 2: Running files -/

/-- What a file is run by. -/
inductive Runner where
  | program (name : String)
  /-- The program of a path, with arguments in front of the path of the file. -/
  | interpreter (path : String) (args : List String)

/-- The program in the first line of a script, with an argument for it. -/
def interpreter? (bytes : ByteArray) : Option Runner :=
  match (Octets.ofBytes (bytes.extract 0 256)).toList with
  | '#' :: '!' :: rest =>
    let isBlank (c : Char) : Bool := c == ' ' || c == '\t'
    let line := ((rest.takeWhile (· ≠ '\n')).dropWhile isBlank).reverse.dropWhile isBlank
    let line := line.reverse
    let path := line.takeWhile fun c => !isBlank c
    let argument := (line.drop path.length).dropWhile isBlank
    if path.isEmpty then none
    else some (.interpreter (String.ofList path)
      (if argument.isEmpty then [] else [String.ofList argument]))
  | _ => none

/-- What is in front of the name of a program in its file. -/
def programMark : List Char := "\x7fELF".toList

/-- What the file of a path is run by. -/
def runnerOf (w : World) (path : String) : Except Fault Runner := do
  let id ← w.find path
  match w.files.node? id with
  | none => throw .notFound
  | some node =>
    match node.content with
    | .program name => return .program name
    | .regular bytes =>
      if node.mode &&& 0o111 = 0 then throw .denied
      let start := (Octets.ofBytes (bytes.extract 0 64)).toList
      if programMark.isPrefixOf start then
        return .program (String.ofList (start.drop programMark.length))
      match interpreter? bytes with
      | some runner => return runner
      | none => throw .notExecutable
    | _ => throw .denied

/-- Runs programs. The number bounds how often a program goes on as another one. -/
def host : Nat → Host
  | 0, _ => pure (.error .tooManyLinks)
  | fuel + 1, call => do
    match ← Work.look fun w => runnerOf w call.path with
    | .error f => return .error f
    | .ok (.interpreter path args) =>
      host fuel { call with path, name := path, args := args ++ call.path :: call.args }
    | .ok (.program name) =>
      Work.becomeProgram
      return .ok (← perform (host fuel) name call)

/-- The number of programs in a row that no text reaches. -/
def hostLimit : Nat := 1000000000000

end SimSweep.Tool
