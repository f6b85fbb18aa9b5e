import SimSweep.Tool.Lines

/-! # Tools on parts of lines

    Parts of lines that are taken out, put side by side, or broken at a width.
-/

namespace SimSweep.Tool

open Kernel

/-! ## Section 1: Taking out parts -/

/-- Numbers from one to another, or without an end. -/
structure Span where
  first : Nat
  last : Option Nat
  deriving DecidableEq

/-- Whether a number is in a span. -/
def Span.has (s : Span) (n : Nat) : Bool := s.first ≤ n && s.last.all (n ≤ ·)

/-- A number in a list of spans. The list is of fields or of other places. -/
def placeOf (isFields : Bool) (cs : List Char) : Deed Nat := do
  let zero := if isFields then "fields are numbered from 1"
    else "byte/character positions are numbered from 1"
  let ds := cs.takeWhile Char.isDigit
  if ds.length < cs.length then
    misuse ("invalid " ++ (if isFields then "field value " else "byte/character position ") ++
      quote (String.ofList (cs.drop ds.length)))
  let n := Decimal.valueOf ds
  if Nat.pow 2 64 - 1 ≤ n then
    misuse ((if isFields then "field number " else "byte/character offset ") ++
      quote (String.ofList ds) ++ " is too large")
  if n = 0 then misuse zero
  return n

/-- A span in a list of spans. -/
def spanOf (isFields : Bool) (cs : List Char) : Deed Span := do
  let first := cs.takeWhile (· ≠ '-')
  match cs.drop first.length with
  | [] =>
    if cs.isEmpty then
      misuse (if isFields then "fields are numbered from 1"
        else "byte/character positions are numbered from 1")
    let n ← placeOf isFields first
    return ⟨n, some n⟩
  | _ :: last =>
    if last.contains '-' then
      misuse (if isFields then "invalid field range" else "invalid byte or character range")
    if first.isEmpty ∧ last.isEmpty then misuse "invalid range with no endpoint: -"
    let a ← if first.isEmpty then pure 1 else placeOf isFields first
    if last.isEmpty then return ⟨a, none⟩
    let b ← placeOf isFields last
    if b < a then misuse "invalid decreasing range"
    return ⟨a, some b⟩

/-- The spans of a list, where commas or blanks stand between them. -/
def spansOf (isFields : Bool) (s : String) : Deed (List Span) :=
  (splitAt ',' (s.toList.map fun c => if c = ' ' ∨ c = '\t' then ',' else c)).mapM
    (spanOf isFields)

/-- The runs of places next to each other among those that are wanted; a span that starts
    behind the end of another one starts a new run. -/
def runsOf (wanted : Nat → Bool) (spans : List Span) (cs : List Char) : List (List Char) :=
  let (runs, current) := (cs.zip (List.range cs.length)).foldl (fun (runs, current) (c, i) =>
    let n := i + 1
    if ¬ wanted n then (if current.isEmpty then runs else runs ++ [current], [])
    else
      let starts := spans.any fun s => s.first == n
      let joined := 1 < n && spans.any fun s => s.has n && s.has (n - 1)
      if starts ∧ ¬ joined ∧ ¬ current.isEmpty then (runs ++ [current], [c])
      else (runs, current ++ [c])) (([] : List (List Char)), [])
  if current.isEmpty then runs else runs ++ [current]

/-- Takes parts out of each line. -/
def cut : Deed Nat := do
  let g ← options
    [{ letter := 'b', name := "bytes", takes := .value },
     { letter := 'c', name := "characters", takes := .value },
     { letter := 'f', name := "fields", takes := .value },
     { letter := 'd', name := "delimiter", takes := .value },
     { letter := 's', name := "only-delimited" }, { letter := 'n' },
     { letter := 'z', name := "zero-terminated" },
     { letter := '\x01', name := "complement" },
     { letter := '\x02', name := "output-delimiter", takes := .value }]
  let delimiter ← match g.value? 'd' with
    | none => pure '\t'
    | some s => match s.toList with
      | [] => pure '\x00'
      | [c] => pure c
      | _ => misuse "the delimiter must be a single character"
  let lists := g.options.filter fun (c, _) => "bcf".toList.contains c
  let (kind, list) ← match lists with
    | [] => misuse "you must specify a list of bytes, characters, or fields"
    | [one] => pure one
    | _ => misuse "only one list may be specified"
  let isFields := kind == 'f'
  if ¬ isFields ∧ g.has 'd' then
    misuse "an input delimiter may be specified only when operating on fields"
  if ¬ isFields ∧ g.has 's' then
    misuse ("suppressing non-delimited lines makes sense\n\tonly when operating on fields")
  let spans ← spansOf isFields list
  let wanted (n : Nat) : Bool := spans.any (·.has n) != g.has '\x01'
  let (cs, isDone) ← charsOfAll g.operands fileComplaint
  let joint := g.value? '\x02'
  let part (line : List Char) : Option (List Char) :=
    if isFields then
      if line.contains delimiter then
        let fields := splitAt delimiter line
        let kept := (fields.zip (List.range fields.length)).filter fun (_, i) => wanted (i + 1)
        some (joinWith ((joint.map (·.toList)).getD [delimiter]) (kept.map Prod.fst))
      else if g.has 's' then none else some line
    else match joint with
      | some s => some (joinWith s.toList (runsOf wanted spans line))
      | none =>
        some (((line.zip (List.range line.length)).filter fun (_, i) => wanted (i + 1)).map Prod.fst)
  let lineEnd := if g.has 'z' then '\x00' else '\n'
  let lines := if g.has 'z' then
      let parts := splitAt '\x00' cs
      if parts.getLast? == some [] then parts.dropLast else parts
    else linesOf cs
  put (String.ofList ((lines.filterMap part).flatMap (· ++ [lineEnd])))
  return if isDone then 0 else 1

/-! ## Section 2: Putting together -/

/-- Rows of the lines of several files. The number bounds the rows. -/
def rowsOf : Nat → List (List (List Char)) → List (List (List Char))
  | 0, _ => []
  | fuel + 1, files =>
    if files.all List.isEmpty then []
    else (files.map fun lines => lines.head?.getD []) :: rowsOf fuel (files.map List.tail)

/-- The characters that a text with escapes stands for. -/
def unescaped : List Char → List (Option Char)
  | [] => []
  | '\\' :: 'n' :: rest => some '\n' :: unescaped rest
  | '\\' :: 't' :: rest => some '\t' :: unescaped rest
  | '\\' :: '0' :: rest => none :: unescaped rest
  | '\\' :: c :: rest => some c :: unescaped rest
  | c :: rest => some c :: unescaped rest

/-- Joins texts with delimiters that come round again. -/
def joinAround (delimiters : List (Option Char)) (texts : List (List Char)) : List Char :=
  ((texts.zip (List.range texts.length)).flatMap fun (cs, i) =>
    if i = 0 then cs
    else
      let d := (delimiters[(i - 1) % max 1 delimiters.length]?).getD none
      d.toList ++ cs)

/-- Puts lines of files side by side. -/
def paste : Deed Nat := do
  let g ← options
    [{ letter := 'd', name := "delimiters", takes := .value }, { letter := 's', name := "serial" }]
  let names := if g.operands.isEmpty then ["-"] else g.operands
  let isInput (name : String) : Bool := name == "-"
  let inputs := names.countP isInput
  let files ← names.mapM fun name => do
    if isInput name then return []
    match ← charsOf name with
    | .ok cs => return linesOf cs
    | .error f => abort (fileComplaint name f)
  let input ← if inputs = 0 then pure [] else do
    match ← charsOf "-" with
    | .ok cs => pure (linesOf cs)
    | .error _ => pure []
  let share (k : Nat) : List (List Char) :=
    (input.zip (List.range input.length)).filterMap fun (line, i) =>
      if i % inputs = k then some line else none
  let (files, _) := (names.zip files).foldl (fun (files, k) (name, lines) =>
    if isInput name then
      (files ++ [if g.has 's' then (if k = 0 then input else []) else share k], k + 1)
    else (files ++ [lines], k)) (([] : List (List (List Char))), 0)
  let delimiters := unescaped (((g.value? 'd').getD "\t").toList)
  let delimiters := if delimiters.isEmpty then [none] else delimiters
  let rows := if g.has 's' then files else rowsOf (files.foldl (fun n f => n + f.length) 1) files
  put (textOf (rows.map (joinAround delimiters)))
  return 0

/-! ## Section 3: Widths -/

/-- The column behind a character. -/
def columnAfter (countsBytes : Bool) (column : Nat) (c : Char) : Nat :=
  if countsBytes then column + 1
  else match c with
    | '\t' => column + 8 - column % 8
    | '\r' => 0
    | '\x08' => column - 1
    | _ => column + 1

/-- Breaks a line at a width, behind blanks if wanted. The number bounds the
    characters. -/
def foldLine (width : Nat) (atBlanks countsBytes : Bool) :
    Nat → List Char → Nat → List Char → List (List Char)
  | 0, line, _, _ => [line.reverse]
  | _, line, _, [] => if line.isEmpty then [] else [line.reverse]
  | fuel + 1, line, column, c :: rest =>
    let next := columnAfter countsBytes column c
    if width < next ∧ ¬ line.isEmpty then
      let tail := line.takeWhile fun d => d != ' ' && d != '\t'
      if atBlanks ∧ tail.length < line.length then
        let kept := line.drop tail.length
        let column := tail.reverse.foldl (columnAfter countsBytes) 0
        kept.reverse :: foldLine width atBlanks countsBytes fuel tail column (c :: rest)
      else line.reverse :: foldLine width atBlanks countsBytes fuel [] 0 (c :: rest)
    else foldLine width atBlanks countsBytes fuel (c :: line) next rest

/-- Breaks lines at a width. -/
def fold : Deed Nat := do
  let g ← options
    [{ letter := 'b', name := "bytes" }, { letter := 's', name := "spaces" },
     { letter := 'w', name := "width", takes := .value }]
  let width ← match g.value? 'w' with
    | none => pure 80
    | some s =>
      if s.isEmpty ∨ ¬ s.toList.all Char.isDigit ∨ Decimal.valueOf s.toList = 0 then
        abort ("invalid number of columns: " ++ quote s)
      else pure (Decimal.valueOf s.toList)
  let (cs, isDone) ← charsOfAll g.operands fileComplaint
  let lines := (linesOf cs).flatMap fun l =>
    if l.isEmpty then [[]] else foldLine width (g.has 's') (g.has 'b') (3 * l.length + 2) [] 0 l
  let text := textOf lines
  put (if cs.getLast? == some '\n' || cs.isEmpty then text
    else String.ofList text.toList.dropLast)
  return if isDone then 0 else 1

/-- Replaces tabs by blanks. -/
def expand : Deed Nat := do
  let g ← options
    [{ letter := 't', name := "tabs", takes := .value }, { letter := 'i', name := "initial" }]
  let width := max 1 (((g.value? 't').map fun s => Decimal.valueOf s.toList).getD 8)
  let (cs, isDone) ← charsOfAll g.operands fileComplaint
  let (out, _) := cs.foldl (fun (out, column) c =>
    if c = '\t' then
      let n := width - column % width
      (List.replicate n ' ' ++ out, column + n)
    else if c = '\n' then (c :: out, 0) else (c :: out, column + 1)) (([] : List Char), 0)
  put (String.ofList out.reverse)
  return if isDone then 0 else 1

end SimSweep.Tool
