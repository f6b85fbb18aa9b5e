import SimSweep.Tool.Options

/-! # Tools on paths

    Parts of paths, and the paths of files as they are in the system.
-/

namespace SimSweep.Tool

open Kernel

/-- The last name in a path. -/
def lastName (path : String) : String :=
  let cs := (path.toList.reverse.dropWhile (· = '/')).takeWhile (· ≠ '/')
  if path.isEmpty then "" else if cs.isEmpty then "/" else String.ofList cs.reverse

/-- A path without its last name. -/
def withoutLastName (path : String) : String :=
  let cs := (path.toList.reverse.dropWhile (· = '/')).dropWhile (· ≠ '/')
  let rest := cs.dropWhile (· = '/')
  if cs.isEmpty then if path.startsWith "/" then "/" else "."
  else if rest.isEmpty then "/" else String.ofList rest.reverse

/-- A name without an ending, unless it is nothing else. -/
def withoutEnding (name ending : String) : String :=
  if name.endsWith ending ∧ name ≠ ending then
    String.ofList (name.toList.take (name.length - ending.length))
  else name

/-- Shows the last names of paths. -/
def basename : Deed Nat := do
  let g ← options
    [{ letter := 'a', name := "multiple" },
     { letter := 's', name := "suffix", takes := .value }, { letter := 'z', name := "zero" }] 1 true
  if g.operands.isEmpty then misuse "missing operand"
  let last := if g.has 'z' then "\x00" else "\n"
  let show_ (path ending : String) : Deed Unit :=
    put (withoutEnding (lastName path) ending ++ last)
  if g.has 'a' ∨ g.has 's' then
    g.operands.forM fun path => show_ path ((g.value? 's').getD "")
  else match g.operands with
    | [path] => show_ path ""
    | [path, ending] => show_ path ending
    | _ => misuse ("extra operand " ++ quote ((g.operands[2]?).getD ""))
  return 0

/-- Shows paths without their last names. -/
def dirname : Deed Nat := do
  let g ← options [{ letter := 'z', name := "zero" }]
  if g.operands.isEmpty then misuse "missing operand"
  let last := if g.has 'z' then "\x00" else "\n"
  g.operands.forM fun path => put (withoutLastName path ++ last)
  return 0

/-- Shows the present directory. -/
def pwd : Deed Nat := do
  let g ← options [{ letter := 'L', name := "logical" }, { letter := 'P', name := "physical" }]
  let named := ((← read).environment.lookup "PWD").getD ""
  let (path, isRight) ← Work.look fun w =>
    (w.files.pathOf w.self.directory,
      named.startsWith "/" && (w.find named).toOption == some w.self.directory)
  put ((if isRight ∧ g.last? "LP" = some 'L' then named else path) ++ "\n")
  return 0

/-- The path of a node of the system in a directory. -/
def World.pathAt (w : World) (place : Place) : String :=
  let directory := w.files.pathOf place.directory
  match place.node with
  | some id =>
    if (w.files.contentOf id).isDirectory then w.files.pathOf id
    else if directory = "/" then "/" ++ place.name else directory ++ "/" ++ place.name
  | none => if directory = "/" then "/" ++ place.name else directory ++ "/" ++ place.name

/-- Shows paths as they are in the system. -/
def realpath : Deed Nat := do
  let g ← options
    [{ letter := 'e', name := "canonicalize-existing" },
     { letter := 'm', name := "canonicalize-missing" }, { letter := 'q', name := "quiet" },
     { letter := 's', name := "strip" }]
  if g.operands.isEmpty then misuse "missing operand"
  let results ← g.operands.mapM fun path => do
    let found ← Work.look fun w => (w.resolve path).map fun place =>
      (World.pathAt w place, place.node.isSome)
    match found with
    | .ok (path, isThere) =>
      if g.has 'e' ∧ ¬ isThere then
        if ¬ g.has 'q' then complain (path ++ ": No such file or directory")
        return false
      put (path ++ "\n")
      return true
    | .error f =>
      if ¬ g.has 'q' then complain (path ++ ": " ++ f.message)
      return false
  return if results.all id then 0 else 1

/-- Shows where links lead, or paths as they are in the system. -/
def readlink : Deed Nat := do
  let g ← options
    [{ letter := 'f', name := "canonicalize" }, { letter := 'e', name := "canonicalize-existing" },
     { letter := 'm', name := "canonicalize-missing" }, { letter := 'n', name := "no-newline" }]
  if g.operands.isEmpty then misuse "missing operand"
  let results ← g.operands.mapM fun path => do
    let found : Option String ← Work.look fun w =>
      if g.has 'f' ∨ g.has 'e' ∨ g.has 'm' then
        match w.resolve path with
        | .ok place => if g.has 'e' ∧ place.node.isNone then none else some (World.pathAt w place)
        | .error _ => none
      else match w.find path false with
        | .ok id => match w.files.contentOf id with
          | .link target => some target
          | _ => none
        | .error _ => none
    match found with
    | some s =>
      put (s ++ if g.has 'n' then "" else "\n")
      return true
    | none => return false
  return if results.all id then 0 else 1

end SimSweep.Tool
