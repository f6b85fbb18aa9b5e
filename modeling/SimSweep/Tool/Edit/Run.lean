import SimSweep.Tool.Edit.Script
import SimSweep.Tool.Lines

/-! # Editing lines

    The commands of a script are run for one line after the other. Each line is taken
    into the pattern space, where the commands change it, and is written when they are
    done with it.
-/

namespace SimSweep.Tool.Edit

open Kernel Tool

/-! ## Section 1: Editors -/

/-- Characters of a line, and whether there is a newline behind them. -/
structure Space where
  chars : List Char := []
  isEnded : Bool := true

/-- What is written when the commands are done with a line. -/
inductive Late where
  | text (cs : List Char)
  | file (name : String)

/-- Where lines come from. -/
structure Source where
  /-- The files that were not opened so far. -/
  names : List String
  /-- The descriptor of the open file. -/
  current : Option Nat := none
  name : String := "-"
  /-- What was read, and is no line so far. -/
  buffer : List Char := []

/-- How lines are edited. -/
structure Manner where
  commands : Array Command
  isQuiet : Bool
  /-- Whether each file has a last line of its own. -/
  isSeparate : Bool
  /-- Files are changed, and what they were is kept under names with this end. -/
  inPlace : Option String
  separator : Char
  width : Nat

/-- The state of an editor. -/
structure Editor where
  source : Source
  pattern : Space := {}
  held : Space := {}
  number : Nat := 0
  wasReplaced : Bool := false
  late : List Late := []
  /-- The last regular expression that was used. -/
  last : Option Search := none
  /-- The places of commands whose ranges have begun, with the last line if it is known. -/
  ranges : List (Nat × Option Nat) := []
  /-- The descriptors to which a line without a newline was written. -/
  lacking : List Nat := []
  /-- The descriptors of files for output. -/
  outputs : List (String × Nat) := []
  /-- The lines that are left of files that are read line by line. -/
  lines : List (String × List (List Char)) := []
  /-- What the file becomes that is changed, piece by piece from its end. -/
  written : List String := []
  status : Nat := 0

/-- What an editor does. -/
abbrev Editing (α : Type) := StateT Editor (ReaderT Manner Deed) α

/-- How lines are edited here. -/
def manner : Editing Manner := fun e m => return (m, e)

/-- Does a deed. -/
def perform {α : Type} (x : Deed α) : Editing α := fun e _ => do return (← x, e)

/-! ## Section 2: Output -/

/-- Writes characters to a descriptor; number one may stand for the file that is
    changed. -/
def emit (number : Nat) (cs : List Char) (isEnded : Bool) : Editing Unit := do
  let m ← manner
  let e ← get
  let gap := if e.lacking.contains number then [m.separator] else []
  let text := String.ofList (gap ++ cs ++ if isEnded then [m.separator] else [])
  set { e with lacking :=
    if isEnded then e.lacking.filter (· ≠ number) else number :: e.lacking.filter (· ≠ number) }
  if number = 1 ∧ m.inPlace.isSome then
    modify fun e => { e with written := text :: e.written }
  else if number = 1 then perform (put text)
  else
    let _ ← perform (Work.writeText number text)

/-- Writes a text as it is. -/
def emitText (cs : List Char) : Editing Unit := do
  let m ← manner
  match cs.getLast? with
  | none => pure ()
  | some c =>
    if c = m.separator then emit 1 cs.dropLast true
    else
      emit 1 cs false
      modify fun e => { e with lacking := e.lacking.filter (· ≠ 1) }

/-- Writes a line. -/
def emitSpace (s : Space) : Editing Unit := emit 1 s.chars s.isEnded

/-- Writes what was put off. -/
def emitLate : Editing Unit := do
  let late := (← get).late
  modify fun e => { e with late := [] }
  late.forM fun
    | .text cs => emitText cs
    | .file name => do
      match ← perform (charsOf (if name = "/dev/stdin" then "-" else name)) with
      | .ok cs => emitText cs
      | .error _ => pure ()

/-- Makes the file that is changed what it becomes. -/
def replaceFile : Editing Unit := do
  let m ← manner
  let e ← get
  match m.inPlace with
  | none => pure ()
  | some ending =>
    let text := String.join e.written.reverse
    set { e with written := [], lacking := [] }
    if ¬ e.source.name = "-" then
      let write (name : String) (bytes : ByteArray) : Editing Unit := do
        match ← perform (Work.openFile name { writes := true, makes := true, empties := true }) with
        | .ok n =>
          let _ ← perform (Work.write n bytes)
          perform (Work.close n)
        | .error _ => pure ()
      let backup :=
        if ending.contains '*' then
          String.join (ending.toList.map fun c =>
            if c = '*' then e.source.name else String.singleton c)
        else e.source.name ++ ending
      if ¬ ending.isEmpty then
        match ← perform (bytesOf e.source.name) with
        | .ok bytes => write backup bytes
        | .error _ => pure ()
      write e.source.name (Octets.toBytes text)

/-! ## Section 3: Input -/

/-- Opens the next file. The result is whether there was one. -/
def openNext : Editing Bool := do
  let m ← manner
  let e ← get
  match e.source.names with
  | [] => return false
  | name :: names =>
    set { e with source := { e.source with names } }
    let fail (message : String) (status : Nat) : Editing Bool := do
      perform (complain message)
      modify fun e => { e with status }
      return true
    let start (d : Nat) : Editing Bool := do
      modify fun e => { e with
        source := { e.source with current := some d, name }
        number := if m.isSeparate then 0 else e.number }
      return true
    if name = "-" ∧ m.inPlace.isNone then start 0
    else
      let isPlain : Bool ← perform (Work.look fun w => match w.find name with
        | .ok id => (w.files.contentOf id matches .regular _)
        | .error _ => true)
      if m.inPlace.isSome ∧ ¬ isPlain then
        fail ("couldn't edit " ++ name ++ ": not a regular file") 4
      else match ← perform (Work.openFile name { reads := true }) with
        | .ok d => start d
        | .error f => fail ("can't read " ++ name ++ ": " ++ f.message) 2

/-- Reads until there is a line, or the open file ends. The result is whether there is
    more in the file. The number bounds the pieces. -/
def fill : Nat → Editing Bool
  | 0 => return false
  | fuel + 1 => do
    let m ← manner
    let e ← get
    if e.source.buffer.contains m.separator then return true
    match e.source.current with
    | none => return !e.source.buffer.isEmpty
    | some d =>
      match ← perform (Work.read d 4096) with
      | .error .interrupted => fill fuel
      | .error f => perform (abort ("read error on " ++ e.source.name ++ ": " ++ f.message) 4)
      | .ok bytes =>
        if bytes.isEmpty then
          if d ≠ 0 then perform (Work.close d)
          set { e with source := { e.source with current := none } }
          return !e.source.buffer.isEmpty
        else
          let cs := (Octets.ofBytes bytes).toList
          set { e with source := { e.source with buffer := e.source.buffer ++ cs } }
          fill fuel

/-- Whether there are no lines any more. -/
def isDone : Editing Bool := do
  if ← fill pieceLimit then return false
  else if (← manner).isSeparate then return true
  else skip ((← get).source.names.length + 1)
where
  /-- Opens files until there is a line. -/
  skip : Nat → Editing Bool
    | 0 => return true
    | fuel + 1 => do
      if ← openNext then
        if ← fill pieceLimit then return false else skip fuel
      else return true

/-- Takes the next line. -/
def readLine? : Editing (Option Space) := do
  let count := (← get).source.names.length + 1
  if ← seek count then
    let m ← manner
    let e ← get
    let cs := e.source.buffer.takeWhile (· ≠ m.separator)
    let rest := e.source.buffer.drop cs.length
    set { e with
      source := { e.source with buffer := rest.drop 1 }
      number := e.number + 1 }
    return some { chars := cs, isEnded := !rest.isEmpty }
  else return none
where
  /-- Goes on to the next file that has a line. -/
  seek : Nat → Editing Bool
    | 0 => fill pieceLimit
    | fuel + 1 => do
      if ← fill pieceLimit then return true
      else
        let isChanged := (← get).source.name ≠ "-" ∧ (← manner).inPlace.isSome
        if isChanged then replaceFile
        modify fun e => { e with source := { e.source with name := "-" } }
        if ← openNext then seek fuel else return false

/-! ## Section 4: Addresses -/

/-- The regular expression of a search, which is the last one if it has none. -/
def regexOf (s : Search) : Editing Search := do
  match s.regex, (← get).last with
  | some _, _ =>
    modify fun e => { e with last := some s }
    return s
  | none, some last => return last
  | none, none => perform (abort "-e expression #1, char 0: no previous regular expression" 1)

/-- The text that a search looks through. -/
def Search.text (s : Search) (cs : List Char) : Regex.Text :=
  { chars := cs.toArray, ignoresCase := s.ignoresCase, hasLines := s.hasLines }

/-- What a search finds. -/
def Search.find? (s : Search) (t : Regex.Text) (start : Nat) : Option Regex.Fit :=
  s.regex.bind fun r => r.find? t start

/-- Whether an address chooses the line. -/
def isAt (a : Address) : Editing Bool := do
  let n := (← get).number
  match a with
  | .line k => return n == k
  | .last => isDone
  | .search s =>
    let s ← regexOf s
    return (s.find? (s.text (← get).pattern.chars) 0).isSome
  | .every first step => return first ≤ n && (n - first) % step == 0
  | .plus _ | .multiple _ => return false

/-- Whether the addresses of the command at some place choose the line. -/
def isChosen (place : Nat) (c : Command) : Editing Bool := do
  match c.first, c.second with
  | none, _ => return true
  | some a, none => isAt a
  | some a, some b =>
    let e ← get
    let n := e.number
    let finish : Editing Unit :=
      modify fun e => { e with ranges := e.ranges.filter (·.1 ≠ place) }
    match e.ranges.lookup place with
    | some (some last) =>
      if last ≤ n then finish
      return n ≤ last
    | some none =>
      if ← isAt b then finish
      return true
    | none =>
      if ← isAt a then
        let start (last : Option Nat) : Editing Unit :=
          modify fun e => { e with ranges := (place, last) :: e.ranges }
        match b with
        | .line k => if n < k then start (some k)
        | .plus k => if 0 < k then start (some (n + k))
        | .multiple k => if 0 < k ∧ n % k ≠ 0 then start (some ((n + k - 1) / k * k))
        | _ => start none
        return true
      else return false

/-! ## Section 5: Replacements -/

/-- The characters of a replacement with their letters changed. The two cases are that of
    the next character and that of those behind it. -/
def withCases (t : Regex.Text) (fit : Regex.Fit) :
    Option Case → Option Case → List Piece → List Char
  | _, _, [] => []
  | next, lasting, .turn c :: rest =>
    match c with
    | .upper | .lower => withCases t fit next (some c) rest
    | .upperNext | .lowerNext => withCases t fit (some c) lasting rest
    | .plain => withCases t fit none none rest
  | next, lasting, piece :: rest =>
    let cs := match piece with
      | .text cs => cs
      | .group n => fit.group t n
      | .turn _ => []
    let turned := cs.map fun c => match lasting with
      | some .upper => c.toUpper
      | some .lower => c.toLower
      | _ => c
    match turned, next with
    | c :: more, some first =>
      (if first = .upperNext then c.toUpper else c.toLower) :: more ++
        withCases t fit none lasting rest
    | cs, next => cs ++ withCases t fit next lasting rest

/-- A line with replacements from some place on, and whether there are any. The first
    number bounds the matches, the second one is that of the next match. -/
def replaced (s : Substitution) (search : Search) (t : Regex.Text) :
    Nat → Nat → Nat → Option Nat → List Char × Bool
  | 0, _, start, _ => (t.between start t.chars.size, false)
  | fuel + 1, number, start, lastEnd =>
    match search.find? t start with
    | none => (t.between start t.chars.size, false)
    | some fit =>
      let isEmpty := fit.last == fit.first
      if isEmpty ∧ lastEnd = some fit.first then
        if t.chars.size ≤ fit.first then (t.between start t.chars.size, false)
        else
          let (cs, isReplaced) := replaced s search t fuel number (fit.first + 1) none
          (t.between start (fit.first + 1) ++ cs, isReplaced)
      else
        let passed := t.between start fit.first
        let isMeant := number == s.number || (s.isGlobal && s.number ≤ number)
        let put := if isMeant then withCases t fit none none s.pieces
          else t.between fit.first fit.last
        if isMeant ∧ ¬ s.isGlobal then
          (passed ++ put ++ t.between fit.last t.chars.size, true)
        else if isEmpty ∧ t.chars.size ≤ fit.last then (passed ++ put, isMeant)
        else
          let next := if isEmpty then fit.last + 1 else fit.last
          let (cs, isReplaced) := replaced s search t fuel (number + 1) next (some fit.last)
          (passed ++ put ++ t.between fit.last next ++ cs, isMeant || isReplaced)

/-- The descriptor of a file for output. -/
def outputOf (name : String) : Editing Nat := do
  match name with
  | "/dev/stdout" => return 1
  | "/dev/stderr" => return 2
  | name => return ((← get).outputs.lookup name).getD 2

/-- Replaces what a command asks for. -/
def substitute (s : Substitution) : Editing Unit := do
  let search ← regexOf s.search
  let e ← get
  let t := search.text e.pattern.chars
  let (cs, isReplaced) := replaced s search t (t.chars.size + 2) 1 0 none
  if isReplaced then
    set { e with pattern := { e.pattern with chars := cs }, wasReplaced := true }
    if s.prints then emitSpace (← get).pattern
    match s.file with
    | some name => emit (← outputOf name) cs true
    | none => pure ()

/-! ## Section 6: Commands -/

/-- What is done next. -/
inductive Next where
  | go (place : Nat)
  /-- The commands are done with the line, which is written or not. -/
  | finish (prints : Bool)
  /-- The commands are run again without another line. -/
  | again
  | quit (status : Nat) (prints : Bool)

/-- A character as it is listed. -/
def listed (c : Char) : List Char :=
  match c with
  | '\\' => "\\\\".toList
  | '\x07' => "\\a".toList
  | '\x08' => "\\b".toList
  | '\x0c' => "\\f".toList
  | '\n' => "\\n".toList
  | '\r' => "\\r".toList
  | '\t' => "\\t".toList
  | '\x0b' => "\\v".toList
  | c =>
    if c.toNat < 32 ∨ 126 < c.toNat then
      let octal := Nat.toDigits 8 c.toNat
      '\\' :: List.replicate (3 - octal.length) '0' ++ octal
    else [c]

/-- A list of characters in lines of some width; no width means one line. -/
def listing (width : Nat) : Nat → List Char → List Char
  | _, [] => ['$']
  | column, c :: rest =>
    let cs := listed c
    if 0 < width ∧ width - 1 < column + cs.length then
      '\\' :: '\n' :: cs ++ listing width cs.length rest
    else cs ++ listing width (column + cs.length) rest

/-- Runs one command for the line. -/
def runAction (place : Nat) (c : Command) : Editing Next := do
  let m ← manner
  let e ← get
  let go : Editing Next := return .go (place + 1)
  let jump (name : String) : Next :=
    if name.isEmpty then .finish true
    else match placeOf? m.commands name with
      | some target => .go target
      | none => .finish true
  let setPattern (cs : List Char) : Editing Unit :=
    modify fun e => { e with pattern := { e.pattern with chars := cs } }
  let firstLine := e.pattern.chars.takeWhile (· ≠ m.separator)
  match c.action with
  | .block _ | .blockEnd | .label _ | .nothing => go
  | .append cs =>
    set { e with late := e.late ++ [Late.text cs] }
    go
  | .insert cs =>
    emitText cs
    go
  | .change cs =>
    if c.second.isNone ∨ c.isNegated ∨ (e.ranges.lookup place).isNone then emitText cs
    return .finish false
  | .jump name => return jump name
  | .jumpIf wanted name =>
    set { e with wasReplaced := false }
    return if e.wasReplaced = wanted then jump name else .go (place + 1)
  | .delete => return .finish false
  | .deleteFirst =>
    if firstLine.length < e.pattern.chars.length then
      setPattern (e.pattern.chars.drop (firstLine.length + 1))
      return .again
    else return .finish false
  | .fileName =>
    emit 1 e.source.name.toList true
    go
  | .take appends =>
    if appends then setPattern (e.pattern.chars ++ m.separator :: e.held.chars)
    else set { e with pattern := { e.pattern with chars := e.held.chars } }
    go
  | .hold appends =>
    if appends then
      set { e with held := { e.held with
        chars := e.held.chars ++ m.separator :: e.pattern.chars } }
    else set { e with held := e.pattern }
    go
  | .list width =>
    emit 1 (listing (width.getD m.width) 0 e.pattern.chars) true
    go
  | .next appends =>
    if ← isDone then return .finish true
    if ¬ appends ∧ ¬ m.isQuiet then emitSpace e.pattern
    emitLate
    match ← readLine? with
    | none => return .finish false
    | some s =>
      let chars := if appends then e.pattern.chars ++ m.separator :: s.chars else s.chars
      modify fun e => { e with pattern := { s with chars } }
      go
  | .print =>
    emitSpace e.pattern
    go
  | .printFirst =>
    emit 1 firstLine true
    go
  | .quit status prints => return .quit status prints
  | .readFile name =>
    set { e with late := e.late ++ [Late.file name] }
    go
  | .readLine name =>
    let lines ← match e.lines.lookup name with
      | some lines => pure lines
      | none =>
        match ← perform (charsOf (if name = "/dev/stdin" then "-" else name)) with
        | .ok cs => pure (linesOf cs)
        | .error _ => pure []
    let others := e.lines.filter (·.1 ≠ name)
    modify fun e => { e with
      lines := (name, lines.drop 1) :: others
      late := e.late ++ (lines.take 1).map fun cs => Late.text (cs ++ ['\n']) }
    go
  | .substitute s =>
    substitute s
    go
  | .write name =>
    emit (← outputOf name) e.pattern.chars e.pattern.isEnded
    go
  | .writeFirst name =>
    emit (← outputOf name) firstLine true
    go
  | .exchange =>
    set { e with pattern := e.held, held := e.pattern }
    go
  | .translate pairs =>
    setPattern (e.pattern.chars.map fun c => (pairs.lookup c).getD c)
    go
  | .empty =>
    setPattern []
    go
  | .number =>
    emit 1 (Decimal.digitsOf e.number ++ ['\n']) false
    modify fun e => { e with lacking := e.lacking.filter (· ≠ 1) }
    go

/-- Runs commands from a place on. The number bounds the commands. -/
def runFrom : Nat → Nat → Editing Next
  | 0, _ => return .finish true
  | fuel + 1, place => do
    let m ← manner
    match m.commands[place]? with
    | none => return .finish true
    | some c =>
      if (← isChosen place c) != c.isNegated then
        match ← runAction place c with
        | .go next =>
          if next ≤ place then perform (Work.change id)
          runFrom fuel next
        | other => return other
      else
        match c.action with
        | .block last => runFrom fuel (last + 1)
        | _ => runFrom fuel (place + 1)

/-- The number of commands that no text reaches. -/
def commandLimit : Nat := 1000000000000

/-- Edits lines from the pattern space on, and gives the status. The number bounds the
    lines. -/
def editLines : Nat → Editing Nat
  | 0 => return 0
  | fuel + 1 => do
    let m ← manner
    let finish (prints : Bool) : Editing Unit := do
      if prints ∧ ¬ m.isQuiet then emitSpace (← get).pattern
      emitLate
    match ← runFrom commandLimit 0 with
    | .go _ => return 0
    | .quit status prints =>
      finish prints
      copyRest m
      return status
    | .again =>
      emitLate
      editLines fuel
    | .finish prints =>
      finish prints
      match ← readLine? with
      | none => return (← get).status
      | some s =>
        modify fun e => { e with pattern := s, wasReplaced := false }
        editLines fuel
where
  /-- Keeps what is left of a file that is changed. -/
  copyRest (m : Manner) : Editing Unit := do
    if m.inPlace.isSome then
      let e ← get
      let rest ← match e.source.current with
        | none => pure ByteArray.empty
        | some d => do
          let bytes ← perform (Work.readAll d)
          pure (bytes.toOption.getD .empty)
      let text := String.ofList e.source.buffer ++ Octets.ofBytes rest
      set { e with written := text :: e.written }
      replaceFile

/-! ## Section 7: The editor as a program -/

/-- A part of a script, and what it is called. -/
structure Part where
  chars : List Char
  /-- The name of its file. -/
  file : Option String

/-- Where in the parts of a script something is wrong. -/
def placeText (parts : List Part) (place : Nat) : String :=
  let rec go (number left : Nat) : List Part → String
    | [] => "-e expression #1, char " ++ digits place ++ ": "
    | p :: rest =>
      if left ≤ p.chars.length ∨ rest.isEmpty then
        match p.file with
        | some name =>
          let lines := (p.chars.take (left - 1)).count '\n' + 1
          "file " ++ name ++ " line " ++ digits lines ++ ": "
        | none => "-e expression #" ++ digits number ++ ", char " ++ digits left ++ ": "
      else go (if p.file.isNone then number + 1 else number) (left - p.chars.length - 1) rest
  if place = 0 then
    "-e expression #" ++ digits (max 1 (parts.countP fun p => p.file.isNone)) ++ ", char 0: "
  else go 1 place parts

/-- The options. -/
def choices : List Choice :=
  [{ letter := 'n', name := "quiet" }, { letter := 'n', name := "silent" },
   { letter := 'e', name := "expression", takes := .value },
   { letter := 'f', name := "file", takes := .value },
   { letter := 'E', name := "regexp-extended" }, { letter := 'r' },
   { letter := 'i', name := "in-place", takes := .maybe },
   { letter := 'l', name := "line-length", takes := .value },
   { letter := 's', name := "separate" }, { letter := 'u', name := "unbuffered" },
   { letter := 'z', name := "null-data" }, { letter := '\x01', name := "posix" },
   { letter := '\x01', name := "debug" }, { letter := '\x01', name := "sandbox" },
   { letter := '\x01', name := "follow-symlinks" }]

/-- Says how lines are edited, and ends the program. -/
def showUsage : Deed Unit := do
  say ("Usage: " ++ (← read).name ++
    " [OPTION]... \x7bscript-only-if-no-other-script\x7d [input-file]...\n")
  stop 1

/-- Edits lines. -/
def tool : Deed Nat := do
  let g ← takeOptionsOr (fun message => do complain message; showUsage) choices (← read).args
  let given ← (g.options.filter fun (c, _) => c == 'e' || c == 'f').mapM fun (c, s) => do
    if c = 'e' then return ({ chars := s.toList, file := none } : Part)
    else match ← charsOf s with
      | .ok cs => return { chars := if cs.getLast? = some '\n' then cs.dropLast else cs
                           file := some s }
      | .error f => abort ("couldn't open file " ++ s ++ ": " ++ f.message) 4
  let (parts, names) ← match given, g.operands with
    | [], [] => do
      showUsage
      pure ([], [])
    | [], script :: names => pure ([{ chars := script.toList, file := none }], names)
    | parts, names => pure (parts, names)
  let script := (parts.map Part.chars).intersperse ['\n'] |>.flatten
  match readScript (g.has 'E' || g.has 'r') script with
  | .error f => abort (placeText parts f.place ++ f.message) 1
  | .ok commands =>
    match (jumpsOf commands).find? fun name => (placeOf? commands name).isNone with
    | some name => abort ("can't find label for jump to \x60" ++ name ++ "'") 4
    | none =>
      let files := commands.toList.filterMap fun c => match c.action with
        | .write name | .writeFirst name => some name
        | .substitute s => s.file
        | _ => none
      let files := files.eraseDups.filter fun s => s != "/dev/stdout" && s != "/dev/stderr"
      let outputs ← files.mapM fun name => do
        match ← Work.openFile name { writes := true, makes := true, empties := true } with
        | .ok n => return (name, n)
        | .error f => abort ("couldn't open file " ++ name ++ ": " ++ f.message) 4
      let startsQuiet := script.take 3 = ['#', 'n', '\n'] || script = ['#', 'n']
      let m : Manner :=
        { commands, isQuiet := g.has 'n' || startsQuiet
          isSeparate := g.has 's' || g.has 'i', inPlace := g.value? 'i'
          separator := if g.has 'z' then '\x00' else '\n'
          width := ((g.value? 'l').bind String.toNat?).getD 70 }
      let isOpenFromStart (place : Nat) : Bool :=
        commands[place]?.any fun c => c.first matches some (.line 0)
      let ranges := ((List.range commands.size).filter isOpenFromStart).map fun k => (k, none)
      let names := if names.isEmpty then ["-"] else names
      let start : Editing Nat := do
        match ← readLine? with
        | none => return (← get).status
        | some s =>
          modify fun e => { e with pattern := s }
          editLines commandLimit
      let (status, _) ← (start.run { source := { names }, outputs, ranges }).run m
      return status

end SimSweep.Tool.Edit
