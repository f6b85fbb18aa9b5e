import SimSweep.Tool.Regex

/-! # Scripts that edit lines

    A script is a list of commands, each for the lines that its addresses choose. How it
    is written, and what is wrong with a text that is none.
-/

namespace SimSweep.Tool.Edit

/-! ## Section 1: Commands -/

/-- A regular expression in a script; none stands for the last one that was used. -/
structure Search where
  regex : Option Regex
  ignoresCase : Bool := false
  hasLines : Bool := false

/-- What chooses lines. -/
inductive Address where
  | line (n : Nat)
  | last
  | search (s : Search)
  /-- Every line so many lines behind a first one. -/
  | every (first step : Nat)
  /-- So many lines further on. -/
  | plus (n : Nat)
  /-- Up to the next multiple. -/
  | multiple (n : Nat)

/-- A change of the letters in a replacement. -/
inductive Case where
  | upper
  | lower
  | upperNext
  | lowerNext
  | plain
  deriving DecidableEq

/-- A part of a replacement. -/
inductive Piece where
  | text (cs : List Char)
  | group (n : Nat)
  | turn (c : Case)

/-- A replacement of what a regular expression fits. -/
structure Substitution where
  search : Search
  pieces : List Piece
  /-- The first match that is replaced, and whether the ones behind it are, too. -/
  number : Nat := 1
  isGlobal : Bool := false
  prints : Bool := false
  file : Option String := none

/-- What a command does. -/
inductive Action where
  /-- The commands up to the place of its end are run only for the chosen lines. -/
  | block (last : Nat)
  | blockEnd
  | append (text : List Char)
  | insert (text : List Char)
  | change (text : List Char)
  | label (name : String)
  | jump (name : String)
  /-- It jumps if there was a replacement, or if there was none. -/
  | jumpIf (wasReplaced : Bool) (name : String)
  | delete
  | deleteFirst
  | fileName
  | take (appends : Bool)
  | hold (appends : Bool)
  | list (width : Option Nat)
  | next (appends : Bool)
  | print
  | printFirst
  | quit (status : Nat) (prints : Bool)
  | readFile (name : String)
  | readLine (name : String)
  | substitute (s : Substitution)
  | nothing
  | write (name : String)
  | writeFirst (name : String)
  | exchange
  | translate (pairs : List (Char × Char))
  | empty
  | number

/-- A command. -/
structure Command where
  first : Option Address := none
  second : Option Address := none
  isNegated : Bool := false
  action : Action

/-! ## Section 2: Reading scripts -/

/-- Why a text is no script, where it is so. -/
structure Flaw where
  place : Nat
  message : String

/-- A place in a text: what is left, and how many characters were taken. -/
structure Cursor where
  rest : List Char
  place : Nat := 0
  isExtended : Bool

/-- A reader of a part of a script. -/
abbrev Reader (α : Type) := StateT Cursor (Except Flaw) α

namespace Reader

/-- Refuses the text here. -/
def refuse {α : Type} (message : String) : Reader α := do throw ⟨(← get).place, message⟩

/-- Takes the next character. -/
def next : Reader (Option Char) := modifyGet fun s =>
  match s.rest with
  | c :: rest => (some c, { s with rest, place := s.place + 1 })
  | [] => (none, s)

/-- Takes the next characters as long as they fulfil a condition. -/
def takeWhile (p : Char → Bool) : Reader (List Char) := modifyGet fun s =>
  let cs := s.rest.takeWhile p
  (cs, { s with rest := s.rest.drop cs.length, place := s.place + cs.length })

/-- The next character, which is not taken. -/
def peek : Reader (Option Char) := return (← get).rest.head?

/-- Passes over blanks. -/
def skipBlanks : Reader Unit := do
  let _ ← takeWhile fun c => c == ' ' || c == '\t'

/-- Takes a number. -/
def number : Reader Nat := return Decimal.valueOf (← takeWhile Char.isDigit)

end Reader

open Reader

/-- The text in front of a mark, which may stand in it behind a backslash. In a regular
    expression it may also stand in a set of characters. None if there is no mark. -/
def readUpTo (mark : Char) (isRegex : Bool) : Nat → Bool → Bool → Reader (Option (List Char))
  | 0, _, _ => return none
  | fuel + 1, inSet, isFirst => do
    match ← next with
    | none | some '\n' => return none
    | some c =>
      if inSet then
        let go (closes : Bool) (cs : List Char) : Reader (Option (List Char)) := do
          return (← readUpTo mark isRegex fuel (!closes) false).map (cs ++ ·)
        if c = ']' then go (!isFirst) [c]
        else if c = '^' ∧ isFirst then
          return (← readUpTo mark isRegex fuel true true).map (c :: ·)
        else if c = '[' then
          match (← get).rest with
          | ':' :: rest =>
            let name := rest.takeWhile Char.isAlpha
            if [':', ']'].isPrefixOf (rest.drop name.length) then
              modify fun s => { s with
                rest := rest.drop (name.length + 2), place := s.place + name.length + 3 }
              go false ('[' :: ':' :: name ++ [':', ']'])
            else go false [c]
          | _ => go false [c]
        else if c = '\\' ∧ (← peek) = some 'n' then
          let _ ← next
          go false ['\n']
        else go false [c]
      else if c = mark then return some []
      else if c = '\\' then
        match ← next with
        | none => return none
        | some d =>
          let kept : List Char :=
            if d = mark ∧ ¬ (¬ isRegex ∧ d = '&') then [d]
            else if isRegex ∧ d = 'n' then ['\n']
            else if d = '\n' ∧ isRegex then ['\n']
            else ['\\', d]
          return (← readUpTo mark isRegex fuel false false).map (kept ++ ·)
      else
        let opens := isRegex && c == '['
        return (← readUpTo mark isRegex fuel opens opens).map (c :: ·)

/-- The value of a digit in a base up to sixteen. -/
def digitOf? (c : Char) : Option Nat :=
  if c.isDigit then some (c.toNat - '0'.toNat)
  else if 'a' ≤ c.toLower ∧ c.toLower ≤ 'f' then some (c.toLower.toNat - 'a'.toNat + 10)
  else none

/-- The character that stands behind a backslash for one that cannot be written, with what
    follows it. -/
def escape? : List Char → Option (Char × List Char)
  | 't' :: rest => some ('\t', rest)
  | 'f' :: rest => some ('\x0c', rest)
  | 'v' :: rest => some ('\x0b', rest)
  | 'a' :: rest => some ('\x07', rest)
  | 'r' :: rest => some ('\r', rest)
  | 'c' :: c :: rest => some (Char.ofNat (c.toUpper.toNat ^^^ 64), rest)
  | 'd' :: rest => number 3 10 rest
  | 'o' :: rest => number 3 8 rest
  | 'x' :: rest => number 2 16 rest
  | _ => none
where
  /-- The character of a number with so many digits in some base. -/
  number (most base : Nat) (rest : List Char) : Option (Char × List Char) :=
    let ds := (rest.take most).takeWhile fun c => (digitOf? c).any (· < base)
    if ds.isEmpty then none
    else
      let n := ds.foldl (fun n c => base * n + (digitOf? c).getD 0) 0
      some (Char.ofNat (n % 256), rest.drop ds.length)

/-- A regular expression in which escapes are replaced by what they stand for. -/
def withoutEscapes : Nat → List Char → List Char
  | 0, cs => cs
  | _, [] => []
  | fuel + 1, '\\' :: c :: rest =>
    match escape? (c :: rest) with
    | some (d, after) =>
      (if "*.[]^$\\/+?()|".toList.contains d ∨ d = '\x7b' then ['\\', d] else [d]) ++
        withoutEscapes fuel after
    | none => '\\' :: c :: withoutEscapes fuel rest
  | fuel + 1, c :: rest => c :: withoutEscapes fuel rest

/-- The regular expression that a text denotes; an empty one stands for the last one. -/
def searchOf (cs : List Char) (ignoresCase hasLines : Bool) : Reader Search := do
  if cs.isEmpty then return { regex := none }
  match Regex.ofText (← get).isExtended (withoutEscapes cs.length cs) false true with
  | .ok r => return { regex := some r, ignoresCase, hasLines }
  | .error f => refuse f.message

/-- Reads an address, if there is one. -/
def readAddress : Reader (Option Address) := do
  match ← peek with
  | none => return none
  | some c =>
    let search (mark : Char) : Reader (Option Address) := do
      match ← readUpTo mark true ((← get).rest.length + 1) false false with
      | none => refuse "unterminated address regex"
      | some cs =>
        let letters ← takeWhile fun c => c == 'I' || c == 'M'
        return some (.search (← searchOf cs (letters.contains 'I') (letters.contains 'M')))
    if c.isDigit then
      let n ← number
      skipBlanks
      if (← peek) = some '~' then
        let _ ← next
        skipBlanks
        let step ← number
        return some (if step = 0 then .line n else .every n step)
      else return some (.line n)
    else if c = '$' then
      let _ ← next
      return some .last
    else if c = '/' then
      let _ ← next
      search '/'
    else if c = '\\' then
      let _ ← next
      match ← next with
      | some mark => search mark
      | none => refuse "unterminated address regex"
    else if c = '+' ∨ c = '~' then
      let _ ← next
      let n ← number
      return some (if c = '+' then .plus n else .multiple n)
    else return none

/-- The parts of a replacement. -/
def piecesOf : Nat → List Char → List Piece
  | 0, _ => []
  | _, [] => []
  | fuel + 1, '&' :: rest => .group 0 :: piecesOf fuel rest
  | fuel + 1, '\\' :: c :: rest =>
    let turn (t : Case) : List Piece := .turn t :: piecesOf fuel rest
    match c with
    | 'U' => turn .upper
    | 'L' => turn .lower
    | 'u' => turn .upperNext
    | 'l' => turn .lowerNext
    | 'E' => turn .plain
    | 'n' => .text ['\n'] :: piecesOf fuel rest
    | c =>
      if c.isDigit then .group (c.toNat - '0'.toNat) :: piecesOf fuel rest
      else match escape? (c :: rest) with
        | some (d, after) => .text [d] :: piecesOf fuel after
        | none => .text [c] :: piecesOf fuel rest
  | fuel + 1, c :: rest => .text [c] :: piecesOf fuel rest

/-- The greatest number of a group in a replacement. -/
def greatestGroup (pieces : List Piece) : Nat :=
  pieces.foldl (fun n p => match p with
    | .group k => max n k
    | _ => n) 0

/-- How many groups a regular expression has. -/
def groupCount : Regex → Nat
  | .group _ r => groupCount r + 1
  | .both r s | .either r s => groupCount r + groupCount s
  | .times r _ _ => groupCount r
  | _ => 0

/-- Reads the rest of a line as the name of a file. -/
def readFileName : Reader String := do
  skipBlanks
  let name ← takeWhile (· ≠ '\n')
  if name.isEmpty then refuse "missing filename in r/R/w/W commands"
  return String.ofList name

/-- What the letters behind a replacement ask for. -/
structure Letters where
  number : Option Nat := none
  isGlobal : Bool := false
  prints : Bool := false
  ignoresCase : Bool := false
  hasLines : Bool := false
  file : Option String := none

/-- Reads the letters behind a replacement. The number bounds them. -/
def readLetters : Nat → Letters → Reader Letters
  | 0, l => return l
  | fuel + 1, l => do
    match ← peek with
    | none | some '\n' | some ';' =>
      let _ ← next
      return l
    | some '\x7d' | some '#' => return l
    | some c =>
      if c.isDigit then
        let n ← number
        if n = 0 then refuse "number option to \x60s' command may not be zero"
        if l.number.isSome then refuse "multiple number options to \x60s' command"
        readLetters fuel { l with number := some n }
      else
        let _ ← next
        match c with
        | 'g' =>
          if l.isGlobal then refuse "multiple \x60g' options to \x60s' command"
          readLetters fuel { l with isGlobal := true }
        | 'p' =>
          if l.prints then refuse "multiple \x60p' options to \x60s' command"
          readLetters fuel { l with prints := true }
        | 'i' | 'I' => readLetters fuel { l with ignoresCase := true }
        | 'm' | 'M' => readLetters fuel { l with hasLines := true }
        | 'e' => readLetters fuel l
        | 'w' => return { l with file := some (← readFileName) }
        | ' ' | '\t' | '\r' => readLetters fuel l
        | _ => refuse "unknown option to \x60s'"

/-- Reads a replacement behind its letter. -/
def readSubstitution : Reader Substitution := do
  let unfinished {α : Type} : Reader α := refuse "unterminated \x60s' command"
  match ← next with
  | none | some '\n' | some '\\' => unfinished
  | some mark =>
    let fuel := (← get).rest.length + 1
    match ← readUpTo mark true fuel false false with
    | none => unfinished
    | some pattern =>
      match ← readReplacement mark fuel with
      | none => unfinished
      | some replacement =>
        let l ← readLetters fuel {}
        let search ← searchOf pattern l.ignoresCase l.hasLines
        let pieces := piecesOf (replacement.length + 1) replacement
        let n := greatestGroup pieces
        if search.regex.any fun r => groupCount r < n then
          refuse ("invalid reference \\" ++ String.ofList (Decimal.digitsOf n) ++
            " on \x60s' command's RHS")
        return { search, pieces, number := l.number.getD 1, isGlobal := l.isGlobal
                 prints := l.prints, file := l.file }
where
  /-- Reads a replacement up to the mark. -/
  readReplacement (mark : Char) : Nat → Reader (Option (List Char))
    | 0 => return none
    | fuel + 1 => do
      match ← next with
      | none | some '\n' => return none
      | some c =>
        if c = mark then return some []
        else if c = '\\' then
          match ← next with
          | none => return none
          | some d =>
            let kept : List Char :=
              if d = mark then (if d = '&' then ['\\', d] else [d])
              else if d = '\n' then ['\n'] else ['\\', d]
            return (← readReplacement mark fuel).map (kept ++ ·)
        else return (← readReplacement mark fuel).map (c :: ·)

/-- Reads a text with backslashes in front of the newlines inside it. -/
def readLines : Nat → Reader (List Char)
  | 0 => return []
  | fuel + 1 => do
    match ← next with
    | none => return []
    | some '\n' => return ['\n']
    | some '\\' =>
      match ← next with
      | none => return []
      | some c =>
        let s ← get
        match escape? (c :: s.rest) with
        | some (d, rest) =>
          set { s with rest, place := s.place + (s.rest.length - rest.length) }
          return d :: (← readLines fuel)
        | none => return c :: (← readLines fuel)
    | some c => return c :: (← readLines fuel)

/-- Reads the text of a command that puts it somewhere. -/
def readText : Reader (List Char) := do
  skipBlanks
  let fuel := (← get).rest.length + 1
  match ← peek with
  | none => refuse "expected \\ after \x60a', \x60c' or \x60i'"
  | some '\\' =>
    let _ ← next
    let s ← get
    let behind := s.rest.dropWhile fun c => c == ' ' || c == '\t'
    if (← peek) = some '\n' then
      let _ ← next
    else if behind.head? = some '\n' then skipBlanks
  | some _ => pure ()
  let cs ← readLines fuel
  return if cs.isEmpty ∨ cs.getLast? = some '\n' then cs else cs ++ ['\n']

/-- Reads what may follow a command. -/
def readEnd : Reader Unit := do
  skipBlanks
  match ← peek with
  | none | some '\x7d' | some '#' => pure ()
  | some c =>
    let _ ← next
    if c ≠ ';' ∧ c ≠ '\n' then refuse "extra characters after command"

/-- Reads the name of a label. -/
def readLabel : Reader String := do
  skipBlanks
  let name ← takeWhile fun c => c != ';' && c != '\n'
  let name := (name.reverse.dropWhile fun c => c == ' ' || c == '\t').reverse
  readEnd
  return String.ofList name

/-- The pairs of characters that are exchanged. -/
def readPairs : Reader (List (Char × Char)) := do
  let unfinished {α : Type} : Reader α := refuse "unterminated \x60y' command"
  match ← next with
  | none => unfinished
  | some mark =>
    let fuel := (← get).rest.length + 1
    let plain (cs : List Char) : List Char :=
      (piecesOf (cs.length + 1) (cs.flatMap fun c => if c = '&' then ['\\', c] else [c])).flatMap
        fun
        | .text cs => cs
        | _ => []
    match ← readUpTo mark false fuel false false with
    | none => unfinished
    | some first =>
      match ← readUpTo mark false fuel false false with
      | none => unfinished
      | some second =>
        let (first, second) := (plain first, plain second)
        if first.length ≠ second.length then
          refuse "strings for \x60y' command are different lengths"
        readEnd
        return first.zip second

/-- Reads what a command does behind its letter. Blocks get their ends later. -/
def readAction (c : Char) : Reader Action := do
  let plain (a : Action) : Reader Action := do
    readEnd
    return a
  let count : Reader (Option Nat) := do
    skipBlanks
    if (← peek).any Char.isDigit then return some (← number) else return none
  match c with
  | '\x7b' => return .block 0
  | '\x7d' =>
    readEnd
    return .blockEnd
  | '=' => plain .number
  | 'a' => return .append (← readText)
  | 'i' => return .insert (← readText)
  | 'c' => return .change (← readText)
  | ':' =>
    let name ← do
      skipBlanks
      takeWhile fun c => c != '\n' && c != ' ' && c != ';'
    if name.isEmpty then refuse "\":\" lacks a label"
    return .label (String.ofList name)
  | 'b' => return .jump (← readLabel)
  | 't' => return .jumpIf true (← readLabel)
  | 'T' => return .jumpIf false (← readLabel)
  | 'd' => plain .delete
  | 'D' => plain .deleteFirst
  | 'F' => plain .fileName
  | 'g' => plain (.take false)
  | 'G' => plain (.take true)
  | 'h' => plain (.hold false)
  | 'H' => plain (.hold true)
  | 'l' =>
    let n ← count
    plain (.list n)
  | 'n' => plain (.next false)
  | 'N' => plain (.next true)
  | 'p' => plain .print
  | 'P' => plain .printFirst
  | 'q' =>
    let n ← count
    plain (.quit (n.getD 0) true)
  | 'Q' =>
    let n ← count
    plain (.quit (n.getD 0) false)
  | 'r' => return .readFile (← readFileName)
  | 'R' => return .readLine (← readFileName)
  | 's' => return .substitute (← readSubstitution)
  | 'v' =>
    let _ ← takeWhile fun c => c != '\n' && c != ';'
    plain .nothing
  | 'w' => return .write (← readFileName)
  | 'W' => return .writeFirst (← readFileName)
  | 'x' => plain .exchange
  | 'y' => return .translate (← readPairs)
  | 'z' => plain .empty
  | c => refuse ("unknown command: \x60" ++ String.singleton c ++ "'")

/-- Reads a command, unless the text ends. Only inside a block may it be the end of one. -/
def readCommand (isInside : Bool) : Nat → Reader (Option Command)
  | 0 => return none
  | fuel + 1 => do
    let _ ← takeWhile fun c => c == ' ' || c == '\t' || c == '\n' || c == ';'
    match ← peek with
    | none => return none
    | some '#' =>
      let _ ← takeWhile (· ≠ '\n')
      readCommand isInside fuel
    | some _ =>
      let first ← readAddress
      match first with
      | some (.plus _) | some (.multiple _) => refuse "unexpected \x60,'"
      | _ => pure ()
      skipBlanks
      let second ← if first.isSome ∧ (← peek) = some ',' then do
        let _ ← next
        skipBlanks
        match ← readAddress with
        | some a => pure (some a)
        | none =>
          let _ ← next
          refuse "unexpected \x60,'"
      else pure none
      skipBlanks
      let isNegated := (← peek) == some '!'
      if isNegated then
        let _ ← next
        skipBlanks
        if (← peek) = some '!' then
          let _ ← next
          refuse "multiple \x60!'s"
      let letter ← next
      match first, second with
      | some (.line 0), some (.search _) => pure ()
      | some (.line 0), _ => refuse "invalid usage of line address 0"
      | _, _ => pure ()
      match letter with
      | none => refuse "missing command"
      | some c =>
        if c = ':' ∧ first.isSome then refuse ": doesn't want any addresses"
        if c = '\x7d' ∧ ¬ isInside then refuse "unexpected \x60\x7d'"
        if c = '\x7d' ∧ first.isSome then refuse "\x7d doesn't want any addresses"
        if (c = 'q' ∨ c = 'Q') ∧ second.isSome then
          refuse "command only uses one address"
        return some { first, second, isNegated, action := ← readAction c }

/-- Reads commands up to the end of the text, and gives blocks their ends. The list has
    the places of the blocks that are open. -/
def readCommands : Nat → List Nat → Array Command → Reader (Array Command)
  | 0, _, done => return done
  | fuel + 1, opened, done => do
    match ← readCommand (!opened.isEmpty) fuel with
    | none =>
      if ¬ opened.isEmpty then throw ⟨0, "unmatched \x60\x7b'"⟩
      return done
    | some c =>
      match c.action, opened with
      | .block _, _ => readCommands fuel (done.size :: opened) (done.push c)
      | .blockEnd, place :: opened =>
        let done := done.modify place fun b => { b with action := .block done.size }
        readCommands fuel opened (done.push c)
      | _, _ => readCommands fuel opened (done.push c)

/-- The labels to which commands jump. -/
def jumpsOf (commands : Array Command) : List String :=
  commands.toList.filterMap fun c => match c.action with
    | .jump name | .jumpIf _ name => if name.isEmpty then none else some name
    | _ => none

/-- The place of a label. -/
def placeOf? (commands : Array Command) (name : String) : Option Nat :=
  commands.findIdx? fun c => match c.action with
    | .label n => n == name
    | _ => false

/-- The commands of a script. -/
def readScript (isExtended : Bool) (cs : List Char) : Except Flaw (Array Command) := do
  let (commands, _) ← (readCommands (cs.length + 2) [] #[]).run { rest := cs, isExtended }
  return commands

end SimSweep.Tool.Edit
