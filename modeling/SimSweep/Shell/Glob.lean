import SimSweep.Kernel.World
import SimSweep.Shell.Pattern

/-! # Paths that fit a pattern

    A word with a pattern stands for the paths that fit it, in the order of their
    bytes. A name that starts with a dot is found only by a pattern that starts with
    one.
-/

namespace SimSweep.Shell.Glob

open Kernel

/-- Whether a set of characters that starts here has an end. -/
def isClosed : Marked → Bool
  | [] => false
  | ('\\', false) :: _ :: rest => isClosed rest
  | ('/', _) :: _ => false
  | (']', false) :: _ => true
  | _ :: rest => isClosed rest

/-- Whether a text has a part that may stand for several texts. -/
def isPattern : Marked → Bool
  | [] => false
  | ('\\', false) :: _ :: rest => isPattern rest
  | ('*', false) :: _ | ('?', false) :: _ => true
  | ('[', false) :: rest =>
    let members := match rest with
      | ('!', false) :: more => more
      | more => more
    isClosed members.tail || isPattern rest
  | _ :: rest => isPattern rest

/-- The names of a path. -/
def segments : Marked → List Marked
  | [] => [[]]
  | ('/', _) :: rest => [] :: segments rest
  | c :: rest =>
    match segments rest with
    | [] => [[c]]
    | s :: more => (c :: s) :: more

/-- The text that stands for itself. -/
def plainText : Marked → List Char
  | [] => []
  | ('\\', false) :: (c, _) :: rest => c :: plainText rest
  | (c, _) :: rest => c :: plainText rest

/-- Whether a name fits a pattern. -/
def fitsName (p : Marked) (name : String) : Bool :=
  let startsWithDot := (plainText p).head? == some '.' && !isPattern (p.take 1)
  (startsWithDot || !name.startsWith ".") && Pattern.accepts p name.toList

/-- The names in a directory. -/
def namesIn (w : World) (path : String) : List String :=
  match w.find (if path.isEmpty then "." else path) with
  | .ok id =>
    if (w.files.contentOf id).isDirectory then
      "." :: ".." :: (w.files.contentOf id).entries.map Prod.fst
    else []
  | .error _ => []

/-- The paths that start with a text and go on with names that fit patterns. -/
def paths (w : World) : List Marked → String → List String
  | [], _ => []
  | [s], start =>
    if isPattern s then ((namesIn w start).filter (fitsName s)).map (start ++ ·)
    else
      let path := start ++ String.ofList (plainText s)
      if (w.find path false).isOk then [path] else []
  | s :: rest, start =>
    if isPattern s then
      ((namesIn w start).filter (fitsName s)).flatMap fun name =>
        match w.find (start ++ name) with
        | .ok id =>
          if (w.files.contentOf id).isDirectory then paths w rest (start ++ name ++ "/") else []
        | .error _ => []
    else paths w rest (start ++ String.ofList (plainText s) ++ "/")

/-- The texts that a field stands for. -/
def expand (w : World) (field : Marked) : List String :=
  if isPattern field then
    match (paths w (segments field) "").mergeSort fun a b => !decide (b < a) with
    | [] => [String.ofList (field.map Prod.fst)]
    | found => found
  else [String.ofList (field.map Prod.fst)]

end SimSweep.Shell.Glob
