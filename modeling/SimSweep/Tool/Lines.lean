import SimSweep.Tool.Options

/-! # Tools that copy lines and bytes

    They write what is in their files or their input: all of it, parts of it, in another
    order, with numbers, or only how much it is.
-/

namespace SimSweep.Tool

open Kernel

/-! ## Section 1: Copying -/

/-- Copies what is left behind a descriptor as it comes in. The number bounds the
    pieces. -/
def copyFrom (number : Nat) : Nat → Deed (Except Fault Unit)
  | 0 => return .ok ()
  | fuel + 1 => do
    match ← Work.read number 65536 with
    | .error .interrupted => copyFrom number fuel
    | .error f => return .error f
    | .ok bytes =>
      if bytes.isEmpty then return .ok ()
      else
        putBytes bytes
        copyFrom number fuel

/-- The most pieces that are copied. -/
def pieceLimit : Nat := 1000000000

/-- Copies the file of a name. -/
def copyFile (name : String) : Deed (Except Fault Unit) := do
  if name = "-" then copyFrom 0 pieceLimit
  else
    match ← Work.openFile name { reads := true } with
    | .error f => return .error f
    | .ok n =>
      let result ← copyFrom n pieceLimit
      Work.close n
      return result

/-- A character as it can be seen. -/
def visible (showsTabs : Bool) (c : Char) : String :=
  let low (n : Nat) : String :=
    if n = 127 then "^?"
    else if n < 32 then "^" ++ String.singleton (Char.ofNat (n + 64))
    else String.singleton (Char.ofNat n)
  if c = '\t' ∧ ¬ showsTabs then "\t"
  else if c.toNat < 128 then low c.toNat
  else "M-" ++ low (c.toNat - 128)

/-- How lines are shown. -/
structure Show where
  numbersAll : Bool
  numbersFull : Bool
  squeezes : Bool
  showsEnds : Bool
  showsTabs : Bool
  showsAll : Bool

/-- The lines of a text as they are shown, from a number on. The text may end without a
    newline. -/
def showLines (s : Show) : Nat → Bool → List (List Char) → List String
  | _, _, [] => []
  | _, _, [[]] => []
  | n, afterBlank, line :: rest =>
    if s.squeezes ∧ line.isEmpty ∧ afterBlank then showLines s n true rest
    else
      let numbered := if s.numbersFull then !line.isEmpty else s.numbersAll
      let head := if numbered then rightAligned 6 (digits n) ++ "\t" else ""
      let body :=
        if s.showsAll then String.join (line.map (visible s.showsTabs))
        else String.join (line.map fun c =>
          if c = '\t' ∧ s.showsTabs then "^I" else String.singleton c)
      let last := if rest.isEmpty then "" else (if s.showsEnds then "$" else "") ++ "\n"
      (head ++ body ++ last) :: showLines s (if numbered then n + 1 else n) line.isEmpty rest

/-- Copies files. -/
def cat : Deed Nat := do
  let g ← options <|
    [{ letter := 'A', name := "show-all" }, { letter := 'b', name := "number-nonblank" },
     { letter := 'E', name := "show-ends" }, { letter := 'n', name := "number" },
     { letter := 's', name := "squeeze-blank" }, { letter := 'T', name := "show-tabs" },
     { letter := 'v', name := "show-nonprinting" }] ++ flags "etu"
  let names := if g.operands.isEmpty then ["-"] else g.operands
  if g.options.all (·.1 == 'u') then
    let results ← names.mapM fun name => do
      match ← copyFile name with
      | .ok () => return true
      | .error f =>
        complain (fileComplaint name f)
        return false
    return if results.all id then 0 else 1
  else
    let (cs, isDone) ← charsOfAll names fileComplaint
    let any (letters : String) : Bool := letters.toList.any g.has
    let s : Show :=
      { numbersAll := any "n", numbersFull := any "b", squeezes := any "s"
        showsEnds := any "AeE", showsTabs := any "AtT", showsAll := any "Aetv" }
    put (String.join (showLines s 1 false (splitAt '\n' cs)))
    return if isDone then 0 else 1

/-- Copies the input to the output and to files. -/
def tee : Deed Nat := do
  let g ← options
    [{ letter := 'a', name := "append" }, { letter := 'i', name := "ignore-interrupts" },
     { letter := 'p', name := "output-error", takes := .maybe }]
  let opened ← g.operands.mapM fun name => do
    let isAppending := g.has 'a'
    match ← Work.openFile name
        { writes := true, makes := true, empties := !isAppending, appends := isAppending } with
    | .ok n => return some n
    | .error f =>
      complain (fileComplaint name f)
      return none
  let rec copy : Nat → Deed Unit
    | 0 => pure ()
    | fuel + 1 => do
      match ← Work.read 0 65536 with
      | .error .interrupted => copy fuel
      | .error _ => pure ()
      | .ok bytes =>
        if bytes.isEmpty then pure ()
        else
          putBytes bytes
          opened.forM fun n => n.forM fun n => do
            let _ ← Work.write n bytes
          copy fuel
  copy pieceLimit
  return if opened.all Option.isSome then 0 else 1

/-! ## Section 2: Parts -/

/-- A size: a number with a letter for its unit. -/
def sizeOf? (s : String) : Option Nat :=
  let ds := s.toList.takeWhile Char.isDigit
  let n := Decimal.valueOf ds
  let unit (base power : Nat) : Option Nat := some (n * Nat.pow base power)
  if ds.isEmpty then none
  else match s.toList.drop ds.length with
    | [] => some n
    | ['b'] => some (n * 512)
    | ['k'] | ['K'] | ['K', 'i', 'B'] => unit 1024 1
    | ['k', 'B'] | ['K', 'B'] => unit 1000 1
    | ['m'] | ['M'] | ['M', 'i', 'B'] => unit 1024 2
    | ['M', 'B'] => unit 1000 2
    | ['G'] | ['G', 'i', 'B'] => unit 1024 3
    | ['G', 'B'] => unit 1000 3
    | ['T'] | ['T', 'i', 'B'] => unit 1024 4
    | ['T', 'B'] => unit 1000 4
    | _ => none

/-- How much of a text is wanted. -/
structure Extent where
  count : Nat := 10
  countsBytes : Bool := false
  /-- Whether it is counted from the other end. -/
  isInverse : Bool := false
  /-- The character at the end of a line. -/
  lineEnd : Char := '\n'

/-- The start of a text with so many lines. -/
def startOf (lineEnd : Char) : Nat → List Char → List Char
  | 0, _ => []
  | n + 1, cs =>
    let line := cs.takeWhile (· ≠ lineEnd)
    match cs.drop line.length with
    | [] => line
    | c :: rest => line ++ c :: startOf lineEnd n rest

/-- How many lines a text has. -/
def lineCount (lineEnd : Char) (cs : List Char) : Nat :=
  cs.count lineEnd + (if cs.isEmpty ∨ cs.getLast? = some lineEnd then 0 else 1)

/-- The start of a text. -/
def Extent.head (e : Extent) (cs : List Char) : List Char :=
  if e.countsBytes then cs.take (if e.isInverse then cs.length - e.count else e.count)
  else startOf e.lineEnd (if e.isInverse then lineCount e.lineEnd cs - e.count else e.count) cs

/-- The end of a text. If it is counted from the start, the first line or byte has the
    number one. -/
def Extent.tail (e : Extent) (cs : List Char) : List Char :=
  let total := if e.countsBytes then cs.length else lineCount e.lineEnd cs
  let dropped := if e.isInverse then e.count - 1 else total - e.count
  if e.countsBytes then cs.drop dropped else cs.drop (startOf e.lineEnd dropped cs).length

/-- The extent that an option asks for. A sign counts it from the other end. -/
def extentOf (sign : Char) (countsBytes : Bool) (lineEnd : Char) (s : String) : Deed Extent := do
  let (isInverse, number) := match s.toList with
    | c :: cs =>
      if c = sign then (true, String.ofList cs)
      else if c = '-' ∨ c = '+' then (false, String.ofList cs) else (false, s)
    | [] => (false, s)
  let what := if countsBytes then "bytes" else "lines"
  match sizeOf? number with
  | some count =>
    if count < Nat.pow 2 64 then return { count, countsBytes, isInverse, lineEnd }
    else abort ("invalid number of " ++ what ++ ": " ++ quote number ++
      ": Value too large for defined data type")
  | none => abort ("invalid number of " ++ what ++ ": " ++ quote number)

/-- The options of tools that write a part of their files. -/
def partChoices : List Choice :=
  [{ letter := 'c', name := "bytes", takes := .value },
   { letter := 'n', name := "lines", takes := .value }, { letter := 'q', name := "quiet" },
   { letter := 'q', name := "silent" }, { letter := 'v', name := "verbose" },
   { letter := 'z', name := "zero-terminated" }]

/-- Arguments in which a number alone behind a dash, or another sign, is an option with
    letters behind it. -/
def modernArguments (signs : List Char) (args : List String) : List String :=
  match args with
  | [] => []
  | a :: rest =>
    match a.toList with
    | sign :: cs =>
      let ds := cs.takeWhile Char.isDigit
      let letters := cs.drop ds.length
      if signs.contains sign ∧ ¬ ds.isEmpty ∧ letters.all "cbklqvz".toList.contains then
        let value := (if sign = '+' then "+" else "") ++ String.ofList ds
        let others := letters.filter fun c => c ≠ 'c' ∧ c ≠ 'l'
        let extra := if others.isEmpty then [] else ["-" ++ String.ofList others]
        (if letters.contains 'c' then "-c" else "-n") :: value :: extra ++ rest
      else args
    | [] => args

/-- Writes a part of each of some files, with titles if there are several. -/
def writeParts (g : Given) (sign : Char) (part : Extent → List Char → List Char)
    (readFile : String → Extent → Deed (Except Fault (List Char))) : Deed Nat := do
  let lineEnd := if g.has 'z' then '\x00' else '\n'
  let extent ← match g.options.reverse.find? fun (c, _) => c == 'c' || c == 'n' with
    | some (c, s) => extentOf sign (c == 'c') lineEnd s
    | none => pure { lineEnd }
  let names := if g.operands.isEmpty then ["-"] else g.operands
  let shows := match g.last? "qv" with
    | some 'v' => true
    | some _ => false
    | none => 1 < names.length
  let step (isFirst : Bool) (name : String) : Deed (Bool × Bool) := do
    let title := if name = "-" then "standard input" else name
    match ← readFile name extent with
    | .ok cs =>
      if shows then put ((if isFirst then "" else "\n") ++ "==> " ++ title ++ " <==\n")
      put (String.ofList (part extent cs))
      return (true, true)
    | .error .isDirectory =>
      if shows then put ((if isFirst then "" else "\n") ++ "==> " ++ title ++ " <==\n")
      complain ("error reading " ++ quoteName title ++ ": Is a directory")
      return (true, false)
    | .error f =>
      complain ("cannot open " ++ quoteName title ++ " for reading: " ++ f.message)
      return (false, false)
  let (_, isDone) ← names.foldlM (fun (isFirst, isDone) name => do
    let (isShown, ok) ← step isFirst name
    return (isFirst && !isShown, isDone && ok)) (true, true)
  return if isDone then 0 else 1

/-- Reads from a descriptor until there is the start that is wanted, and puts the rest of
    the input back. What was read so far is given piece by piece from its end, with the
    number of its lines or bytes. The first number bounds the pieces. -/
def readStart (e : Extent) (number : Nat) :
    Nat → List (List Char) → Nat → Deed (Except Fault (List Char))
  | 0, got, _ => return .ok got.reverse.flatten
  | fuel + 1, got, size => do
    if ¬ e.isInverse ∧ e.count ≤ size then
      let cs := got.reverse.flatten
      let wanted := e.head cs
      if number = 0 then unread (cs.length - wanted.length)
      return .ok wanted
    let most := if e.countsBytes ∧ ¬ e.isInverse then min 65536 (e.count - size) else 1024
    match ← Work.read number most with
    | .error .interrupted => readStart e number fuel got size
    | .error f => return .error f
    | .ok bytes =>
      if bytes.isEmpty then return .ok got.reverse.flatten
      else
        let cs := (Octets.ofBytes bytes).toList
        let added := if e.countsBytes then cs.length else cs.count e.lineEnd
        readStart e number fuel (cs :: got) (size + added)

/-- Reads the start of the file of a name; a dash stands for the input. -/
def startOfFile (name : String) (e : Extent) : Deed (Except Fault (List Char)) := do
  if name = "-" then readStart e 0 pieceLimit [] 0
  else
    match ← Work.openFile name { reads := true } with
    | .error f => return .error f
    | .ok n =>
      let result ← readStart e n pieceLimit [] 0
      Work.close n
      return result

/-- Writes the start of files. -/
def head : Deed Nat := do
  let g ← takeOptions partChoices (modernArguments ['-'] (← read).args)
  writeParts g '-' Extent.head startOfFile

/-- Writes the end of files. -/
def tail : Deed Nat := do
  let g ← takeOptions (partChoices ++ [{ letter := 'f', name := "follow", takes := .maybe }])
    (modernArguments ['-', '+'] (← read).args)
  writeParts g '+' Extent.tail fun name _ => charsOf name

/-! ## Section 3: Other orders -/

/-- Writes the lines of files from the last to the first. -/
def tac : Deed Nat := do
  let g ← options (flags "br")
  let (cs, isDone) ← charsOfAll g.operands fun name f =>
    "failed to open " ++ quoteName name ++ " for reading: " ++ f.message
  let rec pieces (line : List Char) : List Char → List (List Char)
    | [] => if line.isEmpty then [] else [line.reverse]
    | '\n' :: rest => ('\n' :: line).reverse :: pieces [] rest
    | c :: rest => pieces (c :: line) rest
  put (String.ofList (pieces [] cs).reverse.flatten)
  return if isDone then 0 else 1

/-- Writes the characters of each line from the last to the first. -/
def rev : Deed Nat := do
  let g ← options []
  let (cs, isDone) ← charsOfAll g.operands fun name f => "cannot open " ++ name ++ ": " ++ f.message
  let lines := (linesOf cs).map List.reverse
  let text := textOf lines
  put (if cs.getLast? == some '\n' || cs.isEmpty then text
    else String.ofList text.toList.dropLast)
  return if isDone then 0 else 1

/-- Writes the lines of files with numbers. -/
def nl : Deed Nat := do
  let g ← options
    [{ letter := 'b', name := "body-numbering", takes := .value },
     { letter := 'w', name := "number-width", takes := .value },
     { letter := 's', name := "number-separator", takes := .value },
     { letter := 'v', name := "starting-line-number", takes := .value },
     { letter := 'i', name := "line-increment", takes := .value },
     { letter := 'n', name := "number-format", takes := .value }]
  let number (letter : Char) (usual : Nat) : Nat :=
    ((g.value? letter).map fun s => Decimal.valueOf s.toList).getD usual
  let (cs, isDone) ← charsOfAll g.operands fileComplaint
  let width := number 'w' 6
  let separator := (g.value? 's').getD "\t"
  let numbersAll := g.value? 'b' == some "a"
  let numbersNone := g.value? 'b' == some "n"
  let form (n : Nat) : String :=
    match g.value? 'n' with
    | some "ln" => digits n ++ String.ofList (List.replicate (width - (digits n).length) ' ')
    | some "rz" => String.ofList (List.replicate (width - (digits n).length) '0') ++ digits n
    | _ => rightAligned width (digits n)
  let (shown, _) := (linesOf cs).foldl (fun (shown, n) line =>
    if !numbersNone && (numbersAll || !line.isEmpty) then
      (shown ++ form n ++ separator ++ String.ofList line ++ "\n", n + number 'i' 1)
    else
      (shown ++ rightAligned (width + separator.length) "" ++ String.ofList line ++ "\n", n))
    ("", number 'v' 1)
  put shown
  return if isDone then 0 else 1

/-! ## Section 4: Counting -/

/-- How many words there are in a text: parts between blanks. -/
def wordCount (cs : List Char) : Nat :=
  (cs.foldl (fun (n, inWord) c =>
    let blank := c == ' ' || (9 ≤ c.toNat && c.toNat ≤ 13)
    (if !blank && !inWord then n + 1 else n, !blank)) (0, false)).1

/-- The width of the longest line, where tabs go to the next multiple of eight. -/
def longest (cs : List Char) : Nat :=
  let (best, current) := cs.foldl (fun (best, n) c =>
    if c = '\n' ∨ c = '\x0c' ∨ c = '\r' then (max best n, 0)
    else if c = '\t' then (best, n + 8 - n % 8)
    else if c.toNat < 32 ∨ 126 < c.toNat then (best, n) else (best, n + 1)) (0, 0)
  max best current

/-- Counts what is in files. -/
def wc : Deed Nat := do
  let g ← options
    [{ letter := 'c', name := "bytes" }, { letter := 'm', name := "chars" },
     { letter := 'l', name := "lines" }, { letter := 'L', name := "max-line-length" },
     { letter := 'w', name := "words" }]
  let wants (c : Char) : Bool := if g.options.isEmpty then "lwc".toList.contains c else g.has c
  let letters := ['l', 'w', 'm', 'c', 'L'].filter wants
  let names := if g.operands.isEmpty then ["-"] else g.operands
  let sizes ← names.mapM fun name => do
    Work.look fun w =>
      let node := if name = "-" then match w.handle? 0 with
          | some (_, { target := .node id, .. }) => some id
          | _ => none
        else (w.find name).toOption
      match node.map w.files.contentOf with
      | some (.regular bytes) => (bytes.size, true)
      | some _ => (0, false)
      | none => (0, name != "-")
  let width :=
    if names.length = 1 ∧ letters.length = 1 then 1
    else
      let total := (digits ((sizes.map Prod.fst).foldl (· + ·) 0)).length
      if sizes.all Prod.snd then total else max 7 total
  let counts (cs : List Char) : List Nat := letters.map fun
    | 'l' => cs.count '\n'
    | 'w' => wordCount cs
    | 'L' => longest cs
    | _ => cs.length
  let show_ (ns : List Nat) (title : String) : Deed Unit :=
    put (" ".intercalate (ns.map fun n => rightAligned width (digits n)) ++
      (if title.isEmpty then "" else " " ++ title) ++ "\n")
  let results ← names.mapM fun name => do
    let title := if g.operands.isEmpty then "" else name
    match ← charsOf name with
    | .ok cs =>
      show_ (counts cs) title
      return (counts cs, true)
    | .error f =>
      complain (fileComplaint name f)
      if f = .isDirectory then show_ (letters.map fun _ => 0) title
      return (letters.map fun _ => 0, false)
  if 1 < names.length then
    let total := (List.range letters.length).map fun i =>
      let column := results.map fun (ns, _) => ns[i]?.getD 0
      if letters[i]? == some 'L' then column.foldl max 0 else column.foldl (· + ·) 0
    show_ total "total"
  return if results.all Prod.snd then 0 else 1

/-- Writes a line again and again. -/
def yes : Deed Nat := do
  let g ← options [] 1 false
  let line := (if g.operands.isEmpty then "y" else " ".intercalate g.operands) ++ "\n"
  let block := String.join (List.replicate (4096 / line.length + 1) line)
  let rec go : Nat → Deed Nat
    | 0 => return 0
    | fuel + 1 => do
      put block
      go fuel
  go pieceLimit

end SimSweep.Tool
