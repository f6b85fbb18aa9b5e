import SimSweep.Tool.Filing

/-! # Tools that compare files

    The first place where two files differ, and the lines that would have to be taken
    away or added to make one file out of the other.
-/

namespace SimSweep.Tool

open Kernel

/-! ## Section 1: The first difference -/

/-- The place of the first difference of two texts and its line, unless one ends. -/
def firstDifference (n line : Nat) : List Char → List Char → Option (Nat × Nat)
  | c :: cs, d :: ds =>
    if c = d then firstDifference (n + 1) (if c = '\n' then line + 1 else line) cs ds
    else some (n, line)
  | _, _ => none

/-- Compares two files byte by byte. -/
def cmp : Deed Nat := do
  let g ← takeOptions
    [{ letter := 's', name := "silent" }, { letter := 's', name := "quiet" },
     { letter := 'l', name := "verbose" }, { letter := 'b', name := "print-bytes" }] (← read).args 2
  let (a, b) ← match g.operands with
    | [] => misuse "missing operand after 'cmp'" 2
    | [a] => pure (a, "-")
    | a :: b :: _ => pure (a, b)
  let contents (name : String) : Deed (List Char) := do
    match ← charsOf name with
    | .ok cs => return cs
    | .error f =>
      if g.has 's' then stop 2 else abort (fileComplaint name f) 2
  let xs ← contents a
  let ys ← contents b
  if xs = ys then return 0
  if g.has 's' then return 1
  match firstDifference 1 1 xs ys with
  | some (n, line) =>
    if g.has 'l' then
      let both := (xs.zip ys).zipIdx.filter fun ((c, d), _) => c != d
      let octal (c : Char) : String := rightAligned 3 (String.ofList (Nat.toDigits 8 c.toNat))
      let width := (digits (min xs.length ys.length)).length
      put (String.join (both.map fun ((c, d), i) =>
        rightAligned width (digits (i + 1)) ++ " " ++ octal c ++ " " ++ octal d ++ "\n"))
      return 1
    else
      put (a ++ " " ++ b ++ " differ: char " ++ digits n ++ ", line " ++ digits line ++ "\n")
      return 1
  | none =>
    let (short, cs) := if xs.length < ys.length then (a, xs) else (b, ys)
    if cs.isEmpty then complain ("EOF on " ++ short ++ " which is empty")
    else
      let lines := cs.count '\n'
      let place := if cs.getLast? = some '\n' then ", line " ++ digits lines
        else ", in line " ++ digits (lines + 1)
      complain ("EOF on " ++ short ++ " after byte " ++ digits cs.length ++ place)
    return 1

/-! ## Section 2: Lines that differ -/

/-- What becomes of a line. -/
inductive Change where
  | keep
  | remove
  | add
  deriving DecidableEq

/-- For each start of the second list, how many lines it has in common with the first one
    in the same order, from the row for the rest of the first list. -/
def commonRow (x : List Char) (below : List Nat) : List (List Char) → List Nat
  | [] => [0]
  | y :: ys =>
    let row := commonRow x (below.drop 1) ys
    let best := if x = y then (below[1]?).getD 0 + 1
      else max (below[0]?.getD 0) (row.head?.getD 0)
    best :: row

/-- The rows for all starts of the first list. -/
def commonRows (ys : List (List Char)) : List (List Char) → List (List Nat)
  | [] => [List.replicate (ys.length + 1) 0]
  | x :: xs =>
    let rows := commonRows ys xs
    commonRow x (rows.head?.getD []) ys :: rows

/-- The changes that make the second list out of the first one. -/
def changesOf : Nat → List (List Nat) → List (List Char) → List (List Char) → List Change
  | 0, _, _, _ => []
  | _, _, [], ys => ys.map fun _ => .add
  | _, _, xs, [] => xs.map fun _ => .remove
  | fuel + 1, rows, x :: xs, y :: ys =>
    let here := rows.head?.getD []
    let below := (rows.drop 1).head?.getD []
    if x = y then .keep :: changesOf fuel ((rows.drop 1).map (·.drop 1)) xs ys
    else if (below[0]?).getD 0 ≥ (here[1]?).getD 0 then
      .remove :: changesOf fuel (rows.drop 1) xs (y :: ys)
    else .add :: changesOf fuel (rows.map (·.drop 1)) (x :: xs) ys

/-- A stretch of lines that differ: how many are in front of it, and how many it has, on
    both sides. -/
structure Hunk where
  before : Nat
  removed : Nat
  beforeOther : Nat
  added : Nat

/-- The stretches of changes. -/
def hunksOf : Nat → Nat → Nat → List Change → List Hunk
  | 0, _, _, _ => []
  | _, _, _, [] => []
  | fuel + 1, n, m, .keep :: rest => hunksOf fuel (n + 1) (m + 1) rest
  | fuel + 1, n, m, changes =>
    let stretch := changes.takeWhile (· ≠ .keep)
    let removed := stretch.count .remove
    let added := stretch.count .add
    { before := n, removed, beforeOther := m, added } ::
      hunksOf fuel (n + removed) (m + added) (changes.drop stretch.length)

/-- The numbers of the first and the last of some lines. -/
def lineRange (before count : Nat) : String :=
  if count = 0 then digits before
  else if count = 1 then digits (before + 1)
  else digits (before + 1) ++ "," ++ digits (before + count)

/-- A line with a mark in front, and a remark if it has no newline at its end. -/
def markedLine (mark : String) (isOpen : Bool) (line : List Char) : String :=
  mark ++ String.ofList line ++ "\n" ++
    (if isOpen then "\\ No newline at end of file\n" else "")

/-- The lines of one side of a stretch. -/
def sideOf (mark : String) (before count : Nat) (lines : List (List Char)) (isOpen : Bool) :
    String :=
  String.join (((lines.drop before).take count).zipIdx.map fun (line, i) =>
    markedLine mark (isOpen && before + i + 1 == lines.length) line)

/-- The usual text for a stretch. -/
def hunkText (h : Hunk) (xs ys : List (List Char)) (isOpen isOtherOpen : Bool) : String :=
  let letter := if h.added = 0 then "d" else if h.removed = 0 then "a" else "c"
  lineRange h.before h.removed ++ letter ++ lineRange h.beforeOther h.added ++ "\n" ++
    sideOf "< " h.before h.removed xs isOpen ++
    (if letter = "c" then "---\n" else "") ++
    sideOf "> " h.beforeOther h.added ys isOtherOpen

/-- Stretches that are so near to each other that their surroundings touch. -/
def joinedHunks (context : Nat) : List Hunk → List (List Hunk)
  | [] => []
  | h :: rest =>
    match joinedHunks context rest with
    | (next :: more) :: others =>
      if next.before ≤ h.before + h.removed + 2 * context then (h :: next :: more) :: others
      else [h] :: (next :: more) :: others
    | others => [h] :: others

/-- The text for stretches with the lines around them. -/
def unifiedText (context : Nat) (hunks : List Hunk) (xs ys : List (List Char))
    (isOpen isOtherOpen : Bool) : String :=
  match hunks.head?, hunks.getLast? with
  | some first, some last =>
    let start := first.before - min context first.before
    let startOther := first.beforeOther - min context first.beforeOther
    let stop := min xs.length (last.before + last.removed + context)
    let stopOther := min ys.length (last.beforeOther + last.added + context)
    let range (before count : Nat) : String :=
      if count = 1 then digits (before + 1)
      else digits (if count = 0 then before else before + 1) ++ "," ++ digits count
    let (body, at_) := hunks.foldl (fun (text, n) h =>
      (text ++ sideOf " " n (h.before - n) xs isOpen ++ sideOf "-" h.before h.removed xs isOpen ++
        sideOf "+" h.beforeOther h.added ys isOtherOpen, h.before + h.removed)) ("", start)
    "@@ -" ++ range start (stop - start) ++ " +" ++ range startOther (stopOther - startOther) ++
      " @@\n" ++ body ++ sideOf " " at_ (stop - at_) xs isOpen
  | _, _ => ""

/-- Shows how two files differ. -/
def diff : Deed Nat := do
  let refuse : Refusal := fun message => do
    complain message
    say ((← read).name ++ ": Try '" ++ (← read).name ++ " --help' for more information.\n")
    stop 2
  let g ← takeOptionsOr refuse
    [{ letter := 'q', name := "brief" }, { letter := 'u' }, { letter := 's', name := "report-identical-files" },
     { letter := 'U', name := "unified", takes := .value },
     { letter := 'i', name := "ignore-case" }, { letter := 'w', name := "ignore-all-space" },
     { letter := 'b', name := "ignore-space-change" }, { letter := 'B', name := "ignore-blank-lines" },
     { letter := 'r', name := "recursive" }, { letter := 'N', name := "new-file" },
     { letter := 'a', name := "text" }, { letter := '\x01', name := "normal" },
     { letter := 'L', name := "label", takes := .value }] (← read).args
  let (a, b) ← match g.operands with
    | [] => do
      refuse "missing operand after 'diff'"
      pure ("", "")
    | [a] => do
      refuse ("missing operand after " ++ quoteName a)
      pure ("", "")
    | [a, b] => pure (a, b)
    | _ :: _ :: c :: _ => do
      refuse ("extra operand " ++ quoteName c)
      pure ("", "")
  let isFolder ← isDirectoryAt a
  let isOtherFolder ← isDirectoryAt b
  let nameA := if isFolder ∧ ¬ isOtherFolder then pathIn a (lastName b) else a
  let nameB := if isOtherFolder ∧ ¬ isFolder then pathIn b (lastName a) else b
  let contents (name : String) : Deed (Option (List Char)) := do
    match ← charsOf name with
    | .ok cs => return some cs
    | .error f =>
      complain (fileComplaint name f)
      return none
  match ← contents nameA, ← contents nameB with
  | some xs, some ys =>
    let isOpen (cs : List Char) : Bool := !cs.isEmpty && cs.getLast? != some '\n'
    let key (cs : List Char) : List Char :=
      let cs := if g.has 'i' then cs.map Char.toLower else cs
      if g.has 'w' then cs.filter fun c => c != ' ' && c != '\t' else cs
    let mark (cs : List Char) (lines : List (List Char)) : List (List Char) :=
      if isOpen cs then lines.dropLast ++ (lines.getLast?.toList.map (· ++ ['\n'])) else lines
    let linesA := linesOf xs
    let linesB := linesOf ys
    let keysA := mark xs (linesA.map key)
    let keysB := mark ys (linesB.map key)
    if keysA = keysB then
      if g.has 's' then put ("Files " ++ nameA ++ " and " ++ nameB ++ " are identical\n")
      return 0
    if g.has 'q' then
      put ("Files " ++ nameA ++ " and " ++ nameB ++ " differ\n")
      return 1
    let rows := commonRows keysB keysA
    let changes := changesOf (keysA.length + keysB.length + 1) rows keysA keysB
    let hunks := hunksOf (changes.length + 1) 0 0 changes
    if g.has 'u' ∨ g.has 'U' then
      let context := ((g.value? 'U').bind String.toNat?).getD 3
      let labels := g.values 'L'
      let title (i : Nat) (name : String) : Deed String := do
        match labels[i]? with
        | some s => return s
        | none => return name ++ "\t1970-01-01 00:00:00.000000000 +0000"
      put ("--- " ++ (← title 0 nameA) ++ "\n+++ " ++ (← title 1 nameB) ++ "\n")
      (joinedHunks context hunks).forM fun hs =>
        put (unifiedText context hs linesA linesB (isOpen xs) (isOpen ys))
    else
      hunks.forM fun h => put (hunkText h linesA linesB (isOpen xs) (isOpen ys))
    return 1
  | _, _ => return 2

end SimSweep.Tool
