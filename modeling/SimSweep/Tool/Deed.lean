import SimSweep.Kernel.Program
import SimSweep.Number.Reading

/-! # Deeds

    What a small program does: work in a process of its own, with the arguments at hand,
    that may be cut short with a status. Complaints start with the name under which the
    program was called.
-/

namespace SimSweep.Tool

open Kernel

/-- What a small program does. -/
abbrev Deed (α : Type) : Type := ReaderT Call (ExceptT Nat Work) α

namespace Deed

/-- The work of a deed whose result is its status. -/
def toWork (x : Deed Nat) (c : Call) : Work Nat := do
  match ← (x.run c).run with
  | .ok n | .error n => return n

end Deed

/-! ## Section 1: Texts -/

/-- The characters of a decimal number. -/
def digits (n : Nat) : String := String.ofList (Decimal.digitsOf n)

/-- A text between single quotes, with marks for what cannot be seen. -/
def quote (s : String) : String :=
  let shown (c : Char) : String :=
    match c with
    | '\n' => "\\n"
    | '\t' => "\\t"
    | '\'' => "\\'"
    | '\\' => "\\\\"
    | c =>
      if c.toNat < 32 ∨ 126 < c.toNat then
        let octal := Nat.toDigits 8 c.toNat
        "\\" ++ String.ofList (List.replicate (3 - octal.length) '0' ++ octal)
      else String.singleton c
  "'" ++ String.join (s.toList.map shown) ++ "'"

/-- A name of a file between quotes, from which a shell reads it back. -/
def quoteName (s : String) : String :=
  if s.contains '\'' then "\"" ++ s ++ "\"" else "'" ++ s ++ "'"

/-- The lines of a text, without the newlines at their ends. What stands behind the last
    newline is a line if it is not empty. -/
def linesOf (cs : List Char) : List (List Char) :=
  let rec go (line : List Char) : List Char → List (List Char)
    | [] => if line.isEmpty then [] else [line.reverse]
    | '\n' :: rest => line.reverse :: go [] rest
    | c :: rest => go (c :: line) rest
  go [] cs

/-- The text of lines, each with a newline at its end. -/
def textOf (lines : List (List Char)) : String :=
  String.ofList (lines.flatMap (· ++ ['\n']))

/-- A text filled up with blanks in front. -/
def rightAligned (width : Nat) (s : String) : String :=
  String.ofList (List.replicate (width - s.length) ' ') ++ s

/-! ## Section 2: Complaints and output -/

/-- Cuts a deed short. -/
def stop {α : Type} (status : Nat) : Deed α := throw status

/-- Writes a text to the stream for complaints. -/
def say (s : String) : Deed Unit := do
  let _ ← Work.writeText 2 s

/-- Complains in the name of the program. -/
def complain (message : String) : Deed Unit := do
  say ((← read).name ++ ": " ++ message ++ "\n")

/-- Complains and ends the program. -/
def abort {α : Type} (message : String) (status : Nat := 1) : Deed α := do
  complain message
  stop status

/-- Points to the help of the program, and ends it. -/
def hint {α : Type} (status : Nat := 1) : Deed α := do
  say ("Try '" ++ (← read).name ++ " --help' for more information.\n")
  stop status

/-- Complains about the arguments, and ends the program. -/
def misuse {α : Type} (message : String) (status : Nat := 1) : Deed α := do
  complain message
  hint status

/-- Writes a text to the output. -/
def put (s : String) : Deed Unit := do
  match ← Work.writeText 1 s with
  | .ok _ => pure ()
  | .error f => abort ("write error: " ++ f.message)

/-- Writes bytes to the output. -/
def putBytes (bytes : ByteArray) : Deed Unit := do
  match ← Work.write 1 bytes with
  | .ok _ => pure ()
  | .error f => abort ("write error: " ++ f.message)

/-! ## Section 3: Input -/

/-- The bytes of the file of a name; a dash stands for the input. -/
def bytesOf (name : String) : Deed (Except Fault ByteArray) := do
  if name = "-" then Work.readAll 0
  else
    match ← Work.openFile name { reads := true } with
    | .error f => return .error f
    | .ok n =>
      let bytes ← Work.readAll n
      Work.close n
      return bytes

/-- The characters of the file of a name; a dash stands for the input. -/
def charsOf (name : String) : Deed (Except Fault (List Char)) := do
  return (← bytesOf name).map fun bytes => (Octets.ofBytes bytes).toList

/-- The characters of all files of some names, or of the input if there are no names.
    What is said of a file that cannot be read is given. The result says whether all
    could be read. -/
def charsOfAll (names : List String) (complaint : String → Fault → String) :
    Deed (List Char × Bool) := do
  let parts ← (if names.isEmpty then ["-"] else names).mapM fun name => do
    match ← charsOf name with
    | .ok cs => return (cs, true)
    | .error f =>
      complain (complaint name f)
      return ([], false)
  return (parts.flatMap Prod.fst, parts.all Prod.snd)

/-- The usual complaint about a file. -/
def fileComplaint (name : String) (f : Fault) : String := name ++ ": " ++ f.message

/-- Puts bytes that were read back into the input, if that is possible. -/
def unread (count : Nat) : Deed Unit := do
  Work.change fun w =>
    match w.handle? 0 with
    | some (id, { target := .node _, .. }) =>
      { w with handles := w.handles.modify id fun h => { h with offset := h.offset - count } }
    | _ => w

end SimSweep.Tool
