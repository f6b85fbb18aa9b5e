import SimSweep.Shell.Braces
import SimSweep.Shell.Token

/-! # Reading shell commands

    A text is read line by line: the commands of a line, and of the lines that it
    needs to be complete, are read before any of them is run. A word that is an alias
    is replaced by what it stands for, which is then read in its place. The readers
    call each other; `fuel` bounds the depth of the calls.
-/

namespace SimSweep.Shell

/-! ## Section 1: Characters -/

/-- A text that is being read. -/
structure Layer where
  rest : List Char
  /-- The alias that it stands for. -/
  aliasName : Option String := none
  /-- Whether the word behind it may be an alias, too. -/
  continues : Bool := false

/-- What the grammar looks for in front of the next token. -/
structure Watch where
  newlines : Bool := false
  reserved : Bool := false
  aliases : Bool := false
  /-- Whether the next word marks the end of a text, so that nothing is put in the
      place of its parts. -/
  mark : Bool := false

/-- A text that is to come behind the present line. -/
structure Expected where
  number : Nat
  mark : List Char
  stripsTabs : Bool
  isQuoted : Bool
  /-- The line in which it was announced. -/
  line : Nat

/-- A place in a text. -/
structure Cursor where
  dialect : Dialect
  layers : List Layer
  line : Nat := 1
  aliases : List (String × String) := []
  /-- The aliases whose text has just ended. -/
  spent : List String := []
  watch : Watch := {}
  /-- The token that was read last. -/
  last : Token := .finish
  /-- Whether that token is still to be taken. -/
  isPushed : Bool := false
  expected : List Expected := []
  /-- The texts behind commands that were read. -/
  documents : Documents := []
  nextDocument : Nat := 0
  /-- Whether the last document had an end. -/
  isDelimited : Bool := true
  /-- Complaints about texts that have commands all the same, newest first. -/
  warnings : List (Nat × String) := []

/-- Why a text holds no commands. -/
structure Refusal where
  line : Nat
  message : String
  /-- Whether the line is shown. -/
  isShown : Bool := false
  /-- What is said in front of the message. -/
  lead : List String := []

/-- A reader of a part of a text. -/
abbrev Reader (α : Type) := StateT Cursor (Except Refusal) α

/-- The place at the start of a text. -/
def Cursor.start (dialect : Dialect) (text : String) (aliases : List (String × String))
    (line nextDocument : Nat) : Cursor where
  dialect
  layers :=
    let ended := dialect = .plain ∨ text.isEmpty ∨ text.endsWith "\n"
    [{ rest := text.toList ++ if ended then [] else ['\n'] }]
  line
  aliases
  nextDocument

namespace Reader

/-- Refuses the text here. -/
def refuse {α : Type} (message : String) : Reader α := do
  throw { line := (← get).line, message := "Syntax error: " ++ message }

/-- Whether the text is in the rich dialect. -/
def isRich : Reader Bool := return (← get).dialect == .rich

/-- Refuses a text in which something that starts at a line has no end. -/
def unclosed {α : Type} (line : Nat) (closing message : String) : Reader α := do
  if ← isRich then
    throw { line, message := "unexpected EOF while looking for matching \x60" ++ closing ++ "'" }
  else refuse message

/-- The next character of some layers, with what is left of them, and the layers that
    have ended in front of it. -/
def nextOf : List Layer → Option Char × List Layer × List Layer
  | [] => (none, [], [])
  | l :: below =>
    match l.rest, below with
    | c :: rest, _ => (some c, { l with rest } :: below, [])
    | [], [] => (none, [l], [])
    | [], _ =>
      let (c, layers, ended) := nextOf below
      (c, layers, l :: ended)

/-- Takes the next character, if there is one. -/
def nextChar : Reader (Option Char) := modifyGet fun s =>
  let (c, layers, ended) := nextOf s.layers
  (c, { s with
    layers
    spent := ended.filterMap (·.aliasName)
    line := if c == some '\n' then s.line + 1 else s.line
    watch := if ended.any (·.continues) then { s.watch with aliases := true } else s.watch })

/-- Puts a character back. -/
def putBack (c : Option Char) : Reader Unit :=
  match c with
  | none => pure ()
  | some c => modify fun s =>
    match s.layers with
    | [] => s
    | l :: below =>
      { s with
        layers := { l with rest := c :: l.rest } :: below
        line := if c = '\n' then s.line - 1 else s.line }

/-- Takes the next character behind continued lines. The number bounds them. -/
def nextJoined : Nat → Reader (Option Char)
  | 0 => pure none
  | fuel + 1 => do
    match ← nextChar with
    | some '\\' =>
      match ← nextChar with
      | some '\n' => nextJoined fuel
      | c =>
        putBack c
        return some '\\'
    | c => return c

/-- How many lines may be continued. -/
def joinLimit : Nat := 1000000

/-- Takes the next character behind continued lines. -/
def next : Reader (Option Char) := nextJoined joinLimit

/-- Passes over the rest of a line. -/
def skipComment : Nat → Reader Unit
  | 0 => pure ()
  | fuel + 1 => do
    match ← nextChar with
    | none => pure ()
    | some '\n' => putBack (some '\n')
    | some _ => skipComment fuel

/-- Whether a character comes next. -/
def isNext (c : Char) : Reader Bool := do
  let d ← nextChar
  putBack d
  return d == some c

/-- Puts the last token back. -/
def push : Reader Unit := modify fun s => { s with isPushed := true }

/-- Notes the last token. -/
def note (t : Token) : Reader Token := do
  modify fun s => { s with last := t }
  return t

/-- Looks for something in front of the next token. -/
def watch (w : Watch) : Reader Unit := modify fun s => { s with watch := w }

/-- Refuses the last token; what should stand in its place may be named. -/
def unexpected {α : Type} (wanted : Option String := none) : Reader α := do
  let s ← get
  match s.dialect, s.last with
  | .rich, .finish => throw { line := s.line, message := "syntax error: unexpected end of file" }
  | .rich, t =>
    let line := if t matches .newline then s.line - 1 else s.line
    throw ⟨line, "syntax error near unexpected token \x60" ++ t.sign ++ "'", true, []⟩
  | .plain, t =>
    refuse <| t.title ++ " unexpected" ++ match wanted with
      | none => ""
      | some s => " (expecting " ++ s ++ ")"

end Reader

/-- What the grammar looks for where a command may follow on another line. -/
def Watch.command : Watch := { newlines := true, reserved := true, aliases := true }

/-- What the grammar looks for where a command may follow on the same line. -/
def Watch.inLine : Watch := { reserved := true, aliases := true }

/-! ## Section 2: Words -/

/-- What the characters of a word mean. -/
inductive Quoting where
  | none
  | double
  | single
  | arithmetic
  deriving DecidableEq

/-- A level of a word. -/
structure Frame where
  quoting : Quoting
  /-- Whether the level counts as between double quotes. -/
  isDouble : Bool := false
  /-- The number of braces of parameters that are open. -/
  braces : Nat := 0
  /-- How many of them are between double quotes. -/
  quotedBraces : Nat := 0
  /-- Whether the level ends with the last of its braces. -/
  endsWithBraces : Bool := false
  /-- Whether double quotes were opened inside the braces. -/
  isInner : Bool := false
  /-- The number of open parentheses in an expression. -/
  parentheses : Nat := 0

/-- A word while it is read. -/
structure Scan where
  frame : Frame
  outer : List Frame := []
  /-- The marks so far, backwards. -/
  marks : List Mark := []
  isQuoted : Bool := false

namespace Scan

/-- Adds a mark. -/
def add (s : Scan) (m : Mark) : Scan := { s with marks := m :: s.marks }

/-- Adds a character. -/
def addChar (s : Scan) (c : Char) (isEscaped : Bool := false) : Scan := s.add (.char c isEscaped)

/-- Ends a level. -/
def pop (s : Scan) : Scan :=
  match s.outer with
  | f :: outer => { s with frame := f, outer }
  | [] => s

/-- Begins a level. -/
def enter (s : Scan) (f : Frame) : Scan := { s with frame := f, outer := s.frame :: s.outer }

/-- Changes the present level. -/
def change (s : Scan) (f : Frame → Frame) : Scan := { s with frame := f s.frame }

end Scan

/-- The characters that are parameters by themselves. -/
def isSpecialParameter (c : Char) : Bool := "@*#?-$!".toList.contains c || c.isDigit

/-- Whether a character ends a word outside quotes. -/
def endsWord (c : Char) : Bool := "<>();&| \t\n".toList.contains c

/-- Whether quotes take a meaning from a character that it would have in a pattern or
    at the start of a word. -/
def isTamed (c : Char) : Bool := "!*?[=~:/-]".toList.contains c

/-- What a document behind commands looks like while it is read: the mark at its end,
    and whether tabs are dropped in front of its lines. -/
structure Border where
  mark : List Char
  stripsTabs : Bool

/-- What is left of a text behind the end of a document, if the text starts with it. -/
def Border.passed? (b : Border) (cs : List Char) : Option (List Char) :=
  let cs := if b.stripsTabs then cs.dropWhile (· = '\t') else cs
  if b.mark.isPrefixOf cs then
    match cs.drop b.mark.length with
    | [] => some []
    | '\n' :: rest => some rest
    | _ => none
  else none

/-- Passes over the end of a document if it is here, or over tabs that are dropped; the
    result is whether the document ends. -/
def Border.check (b : Border) : Reader Bool := modifyGet fun s =>
  match s.layers with
  | [] => (true, s)
  | l :: below =>
    match b.passed? l.rest with
    | some rest =>
      (true, { s with
        layers := { l with rest } :: below
        isDelimited := true
        line := s.line + (if rest.length < l.rest.length ∧ b.mark.length < l.rest.length
          then 1 else 0) })
    | none =>
      let rest := if b.stripsTabs then l.rest.dropWhile (· = '\t') else l.rest
      (false, { s with layers := { l with rest } :: below })

/-- Takes the rest of a name, of which the first character is given. -/
def readName (isPart : Char → Bool) : Nat → Char → Reader (List Char × Option Char)
  | 0, c => pure ([c], none)
  | fuel + 1, c => do
    match ← Reader.next with
    | some d =>
      if isPart d then
        let (cs, after) ← readName isPart fuel d
        return (c :: cs, after)
      else return ([c], some d)
    | none => return ([c], none)

/-- Takes the text of a substitution up to the closing backquote. -/
def readBackquoted (isDouble : Bool) (line : Nat) : Nat → Reader (List Char)
  | 0 => unclosed
  | fuel + 1 => do
    match ← Reader.next with
    | none => unclosed
    | some '\x60' => return []
    | some '\\' =>
      match ← Reader.nextChar with
      | none => unclosed
      | some c =>
        let loses := c == '\\' || c == '\x60' || c == '$' || (isDouble && c == '"')
        let rest ← readBackquoted isDouble line fuel
        return if loses then c :: rest else '\\' :: c :: rest
    | some c => return c :: (← readBackquoted isDouble line fuel)
where
  /-- Refuses a text that does not end. -/
  unclosed : Reader (List Char) :=
    Reader.unclosed line "\x60" "EOF in backquote substitution"

/-- Takes characters as they stand up to the closing quote, with it. -/
def readQuoted (quote : Char) : Nat → Reader (List Char)
  | 0 => return []
  | fuel + 1 => do
    match ← Reader.nextChar with
    | none => return []
    | some c =>
      if c = quote then return [c]
      else if c = '\\' ∧ quote ≠ '\'' then
        let next := (← Reader.nextChar).toList
        return c :: next ++ (← readQuoted quote fuel)
      else return c :: (← readQuoted quote fuel)

/-- Takes characters as they stand while a depth can be found for each of them that is
    not quoted. The first number bounds the characters. -/
def readWhile (deeper : Nat → Char → Option Nat) : Nat → Nat → Reader (List Char)
  | 0, _ => return []
  | fuel + 1, depth => do
    match ← Reader.nextChar with
    | none => return []
    | some c =>
      if c = '\\' then
        let next := (← Reader.nextChar).toList
        return c :: next ++ (← readWhile deeper fuel depth)
      else if c = '\'' ∨ c = '"' then
        let cs ← readQuoted c Reader.joinLimit
        return c :: cs ++ (← readWhile deeper fuel depth)
      else match deeper depth c with
        | some depth => return c :: (← readWhile deeper fuel depth)
        | none =>
          Reader.putBack (some c)
          return []

/-- The depth behind a character inside parentheses, unless it closes them. -/
def inParentheses (depth : Nat) (c : Char) : Option Nat :=
  if c = '(' then some (depth + 1)
  else if c = ')' then (if depth = 0 then none else some (depth - 1))
  else some depth

/-- The depth behind a character inside square brackets, unless it closes them. -/
def inBrackets (depth : Nat) (c : Char) : Option Nat :=
  if c = '[' then some (depth + 1)
  else if c = ']' then (if depth = 0 then none else some (depth - 1))
  else some depth

/-- The depth behind a character of a pattern in a condition, unless the pattern ends in
    front of it. A regular expression may hold a vertical bar outside parentheses. -/
def inPattern (isExpression : Bool) (depth : Nat) (c : Char) : Option Nat :=
  if c = '(' then some (depth + 1)
  else if c = ')' then (if depth = 0 then none else some (depth - 1))
  else if depth = 0 ∧ ((" \t\n&;<>".toList.contains c) ∨ (c = '|' ∧ ¬ isExpression)) then none
  else some depth

/-- Takes what stands between two opening parentheses that were read and two closing
    ones, if there are such. -/
def readDouble? : Reader (Option (List Char)) := do
  let start ← get
  let cs ← readWhile inParentheses Reader.joinLimit 0
  let a ← Reader.nextChar
  let b ← Reader.nextChar
  if a = some ')' ∧ b = some ')' then return some cs
  else
    set start
    return none

/-- Whether two opening parentheses come next in the rich dialect, maybe behind blanks. -/
def isDoubleNext : Reader Bool := do
  if !(← Reader.isRich) then return false
  let start ← get
  let _ ← readWhile (fun _ c => if c = ' ' ∨ c = '\t' then some 0 else none) Reader.joinLimit 0
  let a ← Reader.nextChar
  let b ← Reader.nextChar
  set start
  return a == some '(' && b == some '('

/-- The character that an escape between single quotes behind a dollar sign stands for,
    and how many characters behind the backslash it takes; none if it is no escape. -/
def dollarEscape? (cs : List Char) : Option (List Char × Nat) :=
  let byte (digits : List Char) (base lead : Nat) : Option (List Char × Nat) :=
    if digits.isEmpty then none
    else some ([Char.ofNat (Nat.ofDigitChars base digits 0 % 256)], lead + digits.length)
  let hexadecimal (limit : Nat) (cs : List Char) : List Char :=
    (cs.take limit).takeWhile fun c => c.isDigit || "abcdefABCDEF".toList.contains c
  let valueOf (digits : List Char) : Nat := digits.foldl (fun n c =>
    n * 16 + if c.isDigit then c.toNat - '0'.toNat else c.toLower.toNat - 'a'.toNat + 10) 0
  let character (digits : List Char) : Option (List Char × Nat) :=
    if digits.isEmpty then none else some (numbered (valueOf digits), 1 + digits.length)
  match cs with
  | 'x' :: rest =>
    let digits := hexadecimal 2 rest
    if digits.isEmpty then none else some ([Char.ofNat (valueOf digits % 256)], 1 + digits.length)
  | 'u' :: rest => character (hexadecimal 4 rest)
  | 'U' :: rest => character (hexadecimal 8 rest)
  | 'c' :: c :: _ => some ([Char.ofNat (c.toUpper.toNat % 32)], 2)
  | c :: _ =>
    match "abeEfnrtv".toList.zip "\x07\x08\x1b\x1b\x0c\n\r\t\x0b".toList |>.lookup c with
    | some d => some ([d], 1)
    | none =>
      if "\\'\"?".toList.contains c then some ([c], 1)
      else byte ((cs.take 3).takeWhile fun c => decide ('0' ≤ c ∧ c ≤ '7')) 8 0
  | [] => none

/-- The text between single quotes behind a dollar sign. The number bounds its
    characters. -/
def dollarText : Nat → List Char → List Char
  | 0, _ => []
  | _, [] => []
  | fuel + 1, '\\' :: rest =>
    match dollarEscape? rest with
    | some (bytes, n) =>
      if bytes = ['\x00'] then [] else bytes ++ dollarText fuel (rest.drop n)
    | none => '\\' :: dollarText fuel rest
  | fuel + 1, c :: rest => c :: dollarText fuel rest

/-- Takes the text between single quotes behind a dollar sign up to the closing one. -/
def readDollarQuoted : Nat → Reader (Option (List Char))
  | 0 => return none
  | fuel + 1 => do
    match ← Reader.nextChar with
    | none => return none
    | some '\'' => return some []
    | some '\\' =>
      let next := (← Reader.nextChar).toList
      return (← readDollarQuoted fuel).map ('\\' :: next ++ ·)
    | some c => return (← readDollarQuoted fuel).map (c :: ·)

/-! ### Parameters -/

/-- The operation that the character behind the name of a parameter asks for, where a
    colon may have stood in front of it. -/
def substitution? (isColon : Bool) : Option Char → Option (List Part → Operation)
  | some '-' => some (.substitute .use isColon)
  | some '+' => some (.substitute .replace isColon)
  | some '?' => some (.substitute .complain isColon)
  | some '=' => some (.substitute .assign isColon)
  | _ => none

/-- The word in front of the first of some characters that is not quoted, and the one
    behind it, if there is one. -/
def splitAt (c : Char) : List Part → List Part × Option (List Part)
  | [] => ([], none)
  | .text cs false :: rest =>
    let first := cs.takeWhile (· ≠ c)
    match cs.drop first.length with
    | [] =>
      let (word, after) := splitAt c rest
      (.text cs false :: word, after)
    | _ :: after => (withText first [], some (withText after rest))
  | part :: rest =>
    let (word, after) := splitAt c rest
    (part :: word, after)

/-- A parameter that was read, with the character that is read next, if it was. -/
structure Braced where
  name : List Char
  form : List Part → Operation
  /-- Whether something up to the closing brace belongs to it. -/
  isOpen : Bool := true
  isTrim : Bool := false
  /-- The text between brackets behind the name. -/
  subscript : Option (List Char) := none

/-- Reads what follows the name of a parameter in braces in the rich dialect, if it is
    nothing that both dialects have. -/
def readRichForm (name : List Char) (c : Option Char) : Reader Braced := do
  let doubled (c : Char) : Reader Bool := do
    let d ← Reader.next
    if d ≠ some c then Reader.putBack d
    return d == some c
  let open_ (form : List Part → Operation) : Reader Braced :=
    return { name, form, isTrim := true }
  match c with
  | some ':' => open_ fun word => .slice (splitAt ':' word).1 (splitAt ':' word).2
  | some '/' =>
    let d ← Reader.next
    let place : Place ← match d with
      | some '/' => pure .every
      | some '#' => pure .start
      | some '%' => pure .finish
      | d =>
        Reader.putBack d
        pure .first
    open_ fun word => .exchange place (splitAt '/' word).1 ((splitAt '/' word).2.getD [])
  | some '^' => do
    let all ← doubled '^'
    open_ (.recase true all)
  | some ',' => do
    let all ← doubled ','
    open_ (.recase false all)
  | some '@' => open_ fun word =>
    match bareText word with
    | [c] => .transformed c
    | cs => .malformed ('@' :: cs)
  | c => return { name, form := fun word => .malformed (c.toList ++ bareText word) }

/-- Reads what follows the name of a parameter in braces. -/
def readForm (name : List Char) (c : Option Char) : Reader Braced := do
  let malformed : List Part → Operation := fun word => .malformed (bareText word)
  let other (c : Option Char) : Reader Braced := do
    if ← Reader.isRich then readRichForm name c else return { name, form := malformed }
  match c with
  | some '\x7d' => return { name, form := fun _ => .value, isOpen := false }
  | some '%' | some '#' =>
    let d ← Reader.next
    let longest := d == c
    if !longest then Reader.putBack d
    return { name, form := .trim (c == some '%') longest, isTrim := true }
  | some ':' =>
    let d ← Reader.next
    match substitution? true d with
    | some form => return { name, form }
    | none =>
      if ← Reader.isRich then Reader.putBack d
      other c
  | c =>
    match substitution? false c with
    | some form => return { name, form }
    | none => other c

/-- Reads the subscript behind the name of a parameter, if there is one, of which the
    first character is given; and the character behind it. -/
def readSubscript (c : Option Char) : Reader (Option (List Char) × Option Char) := do
  if c = some '[' then
    if ← Reader.isRich then
      let cs ← readWhile inBrackets Reader.joinLimit 0
      let _ ← Reader.nextChar
      return (some cs, ← Reader.next)
  return (none, c)

/-- Reads the name of a parameter, and in braces what follows it. -/
def readParameter (isBraced : Bool) (c : Option Char) : Reader Braced := do
  let malformed : List Part → Operation := fun word => .malformed (bareText word)
  let finish (name : List Char) (after : Option Char) : Reader Braced := do
    if isBraced then
      let (subscript, after) ← readSubscript after
      return { ← readForm name after with subscript }
    else
      Reader.putBack after
      return { name, form := fun _ => .value, isOpen := false }
  let named (c : Char) (braced : Bool) : Reader (List Char × Option Char) := do
    if startsName c then readName isNameChar Reader.joinLimit c
    else if braced then readName Char.isDigit Reader.joinLimit c
    else return ([c], ← Reader.next)
  match c with
  | none =>
    return { name := [], form := malformed }
  | some c =>
    if startsName c ∨ c.isDigit then
      let (name, after) ← named c isBraced
      finish name after
    else if c = '\x7d' then
      Reader.putBack (some c)
      return { name := [], form := malformed }
    else
      let d ← Reader.next
      if isBraced ∧ c = '#' then
        let ofLength (name : List Char) (after : Option Char) : Reader Braced := do
          let (subscript, after) ← readSubscript after
          if after == some '\x7d' then
            Reader.putBack after
            return { name, form := fun _ => .length, subscript }
          else
            Reader.putBack after
            return { name, form := malformed }
        match d with
        | some d =>
          if isNameChar d then
            let (name, after) ← named d true
            ofLength name after
          else
            let e ← Reader.next
            if d ≠ '\x7d' ∧ e = some '\x7d' then
              if isSpecialParameter d then
                Reader.putBack e
                return { name := [d], form := fun _ => .length }
              else
                Reader.putBack e
                return { name := [], form := malformed }
            else
              Reader.putBack e
              readForm ['#'] (some d)
        | none => return { name := ['#'], form := malformed }
      else if isBraced ∧ c = '!' ∧ d.any isNameChar ∧ (← Reader.isRich) then
        let (name, after) ← named (d.getD '_') true
        let (subscript, after) ← readSubscript after
        if subscript = some ['@'] ∨ subscript = some ['*'] then
          Reader.putBack after
          return { name, form := fun _ => .subscripts, subscript }
        else if after = some '*' ∨ after = some '@' then
          return { name, form := fun _ => .names }
        else
          let p ← readForm name after
          return { p with form := fun word => .indirect (p.form word), subscript }
      else if isSpecialParameter c then finish [c] d
      else
        Reader.putBack d
        return { name := [], form := malformed }

/-- The redirection at the end of a word that ended at one of the characters `<` and
    `>`. -/
def readRedirection (descriptor : Option Nat) (c : Char) : Reader Token := do
  let d ← Reader.next
  let mark (s : String) : Reader Token := Reader.note (.redirection descriptor s)
  if c = '>' then
    match d with
    | some '>' => mark ">>"
    | some '|' => mark ">|"
    | some '&' => mark ">&"
    | d =>
      Reader.putBack d
      mark ">"
  else
    match d with
    | some '<' =>
      let e ← Reader.next
      match e, ← Reader.isRich with
      | some '-', _ => mark "<<-"
      | some '<', true => mark "<<<"
      | e, _ =>
        Reader.putBack e
        mark "<<"
    | some '&' => mark "<&"
    | some '>' => mark "<>"
    | d =>
      Reader.putBack d
      mark "<"

/-! ## Section 3: Commands -/

mutual

/-- Reads a word from a character on; the result has the character at which it ended. A
    document is read as one word. -/
def readMarks : Nat → Option Border → Bool → Option Char → Scan → Reader (Option Char × Scan)
  | 0, _, _, _, _ => Reader.refuse "Too deeply nested"
  | fuel + 1, border, isMark, c, s => do
    let onwards (s : Scan) : Reader (Option Char × Scan) := do
      let c ← if s.frame.quoting = .single then Reader.nextChar else Reader.next
      readMarks fuel border isMark c s
    let f := s.frame
    match c with
    | none => return (none, s)
    | some c =>
      if c = '\n' then
        if f.quoting = .none ∧ f.braces = 0 then return (some c, s)
        let s := s.addChar c
        match border with
        | some b =>
          if ← b.check then return (none, s)
          else readMarks fuel border isMark (← Reader.nextChar) s
        | none => readMarks fuel border isMark (← Reader.nextChar) s
      else if f.quoting = .single then
        if c = '\'' ∧ border.isNone then
          onwards <| (s.change fun f =>
            if f.quotedBraces = 0 then { f with quoting := .none, isDouble := false } else f)
            |>.add .quote |> fun s => { s with isQuoted := true }
        else onwards (s.addChar c (border.isNone && (isTamed c || c == '\\')))
      else if c = '\\' then
        match ← Reader.nextChar with
        | none => onwards (s.addChar '\\' true)
        | some d =>
          let keeps := f.isDouble && d != '\\' && d != '\x60' && d != '$' &&
            (d != '"' || (border.isSome && f.braces == 0)) && (d != '\x7d' || f.braces == 0)
          let s := if keeps then s.addChar '\\' true else s
          onwards { s.addChar d true with isQuoted := true }
      else if c = '$' then readDollar fuel border isMark s
      else if c = '\x60' then
        if isMark then onwards { s.addChar c with isQuoted := true }
        else
          let cs ← readBackquoted f.isDouble (← get).line Reader.joinLimit
          let outside ← get
          set { outside with
            layers := [{ rest := cs }]
            line := 1
            expected := []
            isPushed := false }
          let script ← readList fuel false true
          modify fun inside => { inside with
            layers := outside.layers
            line := outside.line
            expected := outside.expected
            isPushed := false }
          onwards (s.add (.substitution script))
      else if c = '\x7d' then
        if !f.isInner ∧ 0 < f.braces then
          let s := s.change fun f => { f with braces := f.braces - 1 }
          let s :=
            if s.frame.braces = 0 ∧ f.endsWithBraces then s.pop
            else if 0 < f.quotedBraces then
              s.change fun f => { f with quotedBraces := f.quotedBraces - 1 }
            else s
          onwards (s.add .parameterEnd)
        else onwards (s.addChar c)
      else match f.quoting with
        | .double =>
          if c = '"' then
            if border.isSome ∧ f.braces = 0 then onwards (s.addChar c)
            else
              let s := s.change fun f =>
                if f.quotedBraces = 0 then { f with quoting := .none, isDouble := false } else f
              let s := s.change fun f =>
                if f.braces ≠ 0 then { f with isInner := !f.isInner } else f
              let s := if border.isNone then s.add .quote else s
              onwards { s with isQuoted := true }
          else onwards (s.addChar c (isTamed c))
        | .arithmetic =>
          if c = '(' then
            onwards ((s.change fun f => { f with parentheses := f.parentheses + 1 }).addChar c)
          else if c = ')' then
            if 0 < f.parentheses then
              onwards ((s.change fun f => { f with parentheses := f.parentheses - 1 }).addChar c)
            else match ← Reader.next with
              | some ')' => onwards (s.pop.add .arithmeticEnd)
              | d =>
                Reader.putBack d
                onwards (s.addChar c)
          else onwards (s.addChar c)
        | _ =>
          if c = '\'' then
            let s := s.change fun f => { f with quoting := .single }
            onwards (if border.isNone then s.add .quote else s)
          else if c = '"' then
            let s := s.change fun f =>
              { f with quoting := .double, isDouble := true
                       isInner := if f.braces ≠ 0 then !f.isInner else f.isInner }
            onwards (if border.isNone then s.add .quote else s)
          else if endsWord c ∧ f.braces = 0 then
            if (c = '<' ∨ c = '>') ∧ border.isNone ∧ (← Reader.isRich) ∧ (← Reader.isNext '(') then
              let _ ← Reader.nextChar
              onwards (s.add (.whole (.channel (← readInside fuel) (c == '<'))))
            else return (some c, s)
          else onwards (s.addChar c)

/-- Reads what follows a dollar sign, and goes on with the word. -/
def readDollar : Nat → Option Border → Bool → Scan → Reader (Option Char × Scan)
  | 0, _, _, _ => Reader.refuse "Too deeply nested"
  | fuel + 1, border, isMark, s => do
    let onwards (s : Scan) : Reader (Option Char × Scan) := do
      readMarks fuel border isMark (← Reader.next) s
    let isFree := !isMark && s.frame.quoting == .none && border.isNone && (← Reader.isRich)
    let line := (← get).line
    let c ← Reader.next
    let isPlain := match c with
      | some c => isMark || !(c == '(' || c == '\x7b' || startsName c || isSpecialParameter c)
      | none => true
    if isFree ∧ c = some '"' then
      Reader.putBack c
      onwards s
    else if isFree ∧ c = some '\'' then
      match ← readDollarQuoted Reader.joinLimit with
      | none => Reader.unclosed line "'" "Unterminated quoted string"
      | some cs =>
        onwards { s.add (.whole (.text (dollarText (cs.length + 1) cs) true)) with isQuoted := true }
    else if isPlain then
      Reader.putBack c
      onwards (s.addChar '$')
    else if c = some '(' then
      match ← Reader.next with
      | some '(' =>
        onwards ((s.add .arithmetic).enter { quoting := .arithmetic, isDouble := true })
      | d =>
        Reader.putBack d
        onwards (s.add (.substitution (← readInside fuel)))
    else
      let isBraced := c == some '\x7b'
      let p ← readParameter isBraced (← if isBraced then Reader.next else pure c)
      let name := String.ofList p.name
      let subscript ← match p.subscript with
        | some cs => some <$> readInner fuel none { quoting := .none, braces := 1 } cs
        | none => pure none
      let s := s.add (.parameter name subscript p.form p.isOpen p.isTrim)
      if p.isOpen then
        let f := s.frame
        let quoting : Quoting :=
          if p.isTrim then .none
          else if f.quoting = .arithmetic then .double
          else f.quoting
        let s :=
          if quoting ≠ f.quoting ∨ f.isInner then
            s.enter { quoting, isDouble := quoting != .none, endsWithBraces := true }
          else s
        onwards <| s.change fun f =>
          { f with braces := f.braces + 1
                   quotedBraces := f.quotedBraces + (if f.isDouble then 1 else 0) }
      else onwards s

/-- Reads commands up to a closing parenthesis. -/
def readInside : Nat → Reader Script
  | 0 => Reader.refuse "Too deeply nested"
  | fuel + 1 => do
    let expected := (← get).expected
    modify fun s => { s with expected := [] }
    let script ← readList fuel false true
    match ← readToken fuel with
    | .operator ")" => pure ()
    | .finish => Reader.unclosed (← get).line ")" "end of file unexpected (expecting \")\")"
    | _ => Reader.unexpected (some (doubleQuoted ")"))
    let layers := (← get).layers
    modify fun s => { s with layers := [{ rest := [] }] }
    readDocuments fuel
    modify fun s => { s with layers, expected }
    return script

/-- Reads a text that was taken as it stands as a part of a word. -/
def readInner : Nat → Option Border → Frame → List Char → Reader Term
  | 0, _, _, _ => Reader.refuse "Too deeply nested"
  | fuel + 1, border, frame, cs => do
    let outside ← get
    set { outside with layers := [{ rest := cs }], expected := [], isPushed := false }
    let (_, s) ← readMarks fuel border false (← Reader.next) { frame }
    modify fun inside => { inside with
      layers := outside.layers
      line := outside.line
      expected := outside.expected
      isPushed := outside.isPushed
      last := outside.last
      watch := outside.watch }
    return Mark.term false s.marks.reverse

/-- Reads a text that was taken as it stands as an expression. -/
def readExpression : Nat → List Char → Reader Term
  | 0, _ => Reader.refuse "Too deeply nested"
  | fuel + 1, cs =>
    readInner fuel (some ⟨['\x00'], false⟩) { quoting := .double, isDouble := true } cs

/-- Reads a token as it stands in the text. -/
def readPlainToken : Nat → Bool → Reader Token
  | 0, _ => Reader.refuse "Too deeply nested"
  | fuel + 1, isMark => do
    let s ← get
    if s.isPushed then
      set { s with isPushed := false }
      return s.last
    let c ← Reader.next
    let double (c : Char) (one two : String) : Reader Token := do
      let d ← Reader.next
      if d = some c then Reader.note (.operator two)
      else
        Reader.putBack d
        Reader.note (.operator one)
    match c with
    | some ' ' | some '\t' => readPlainToken fuel isMark
    | some '#' =>
      Reader.skipComment Reader.joinLimit
      readPlainToken fuel isMark
    | none => Reader.note .finish
    | some '\n' => Reader.note .newline
    | some '&' =>
      if (← Reader.isRich) ∧ (← Reader.isNext '>') then
        let _ ← Reader.nextChar
        if ← Reader.isNext '>' then
          let _ ← Reader.nextChar
          Reader.note (.redirection none "&>>")
        else Reader.note (.redirection none "&>")
      else double '&' "&" "&&"
    | some '|' =>
      if (← Reader.isRich) ∧ (← Reader.isNext '&') then
        let _ ← Reader.nextChar
        Reader.note (.operator "|&")
      else double '|' "|" "||"
    | some ';' =>
      let _ ← double ';' ";" ";;"
      let t := (← get).last
      if (← Reader.isRich) ∧ (← Reader.isNext '&') then
        let _ ← Reader.nextChar
        Reader.note (.operator (t.sign ++ "&"))
      else return t
    | some '(' => Reader.note (.operator "(")
    | some ')' => Reader.note (.operator ")")
    | c =>
      let line := (← get).line
      let (c, s) ← readMarks fuel none isMark c { frame := { quoting := .none } }
      if s.frame.quoting = .arithmetic then Reader.unclosed line ")" "Missing '))'"
      if s.frame.quoting ≠ .none then
        let quote := if s.frame.quoting = .single then "'" else "\""
        Reader.unclosed line quote "Unterminated quoted string"
      if s.frame.braces ≠ 0 then Reader.unclosed line "\x7d" "Missing '\x7d'"
      let wordEnd : Reader Token := do
        Reader.putBack c
        Reader.note (.word (Mark.term false s.marks.reverse) s.isQuoted)
      match c with
      | some c =>
        if c = '<' ∨ c = '>' then
          match s.isQuoted, s.marks with
          | false, [] => readRedirection none c
          | false, marks =>
            let digits := marks.reverse.map fun
              | .char d false => d
              | _ => ' '
            if digits.all Char.isDigit ∧ (digits.length = 1 ∨ (← Reader.isRich)) then
              readRedirection (some (Decimal.valueOf digits)) c
            else wordEnd
          | _, _ => wordEnd
        else wordEnd
      | none => wordEnd

/-- Passes over newlines, and reads the token behind them. -/
def skipNewlines : Nat → Token → Reader Token
  | 0, t => return t
  | fuel + 1, t => do
    match t with
    | .newline =>
      readDocuments fuel
      modify fun s => { s with watch := {} }
      skipNewlines fuel (← readPlainToken fuel false)
    | t => return t

/-- Reads a token, and sees in it what the grammar looks for. -/
def readToken : Nat → Reader Token
  | 0 => Reader.refuse "Too deeply nested"
  | fuel + 1 => do
    readTokenFor fuel (← get).watch

/-- Reads a token, and sees in it what the grammar looks for; that is more behind some
    aliases. -/
def readTokenFor : Nat → Watch → Reader Token
  | 0, _ => Reader.refuse "Too deeply nested"
  | fuel + 1, watch => do
    let t ← readPlainToken fuel watch.mark
    let t ← if watch.newlines then skipNewlines fuel t else pure t
    let s ← get
    let watch := { watch with aliases := watch.aliases || s.watch.aliases }
    set { s with watch := {} }
    match t.plain? with
    | none => return t
    | some word =>
      if watch.reserved ∧ (reservedWords s.dialect).contains word then
        Reader.note (.reserved word)
      else if watch.aliases then
        match s.aliases.lookup word with
        | none => return t
        | some text =>
          if s.spent.contains word ∨ s.layers.any fun l => l.aliasName == some word then return t
          modify fun s => { s with layers :=
            { rest := text.toList, aliasName := some word
              continues := text.endsWith " " || text.endsWith "\t" } :: s.layers }
          readTokenFor fuel watch
      else return t

/-- Reads the documents that are to come. -/
def readDocuments : Nat → Reader Unit
  | 0 => Reader.refuse "Too deeply nested"
  | fuel + 1 => do
    let s ← get
    match s.expected with
    | [] => return
    | e :: rest =>
      set { s with expected := rest }
      let border : Border := ⟨e.mark, e.stripsTabs⟩
      let frame : Frame :=
        if e.isQuoted then { quoting := .single } else { quoting := .double, isDouble := true }
      modify fun s => { s with isDelimited := false }
      let marks ← if ← border.check then pure [] else do
        let c ← if e.isQuoted then Reader.nextChar else Reader.next
        let (_, s) ← readMarks fuel (some border) false c { frame }
        if s.frame.quoting = .arithmetic then Reader.refuse "Missing '))'"
        if s.frame.braces ≠ 0 then Reader.refuse "Missing '\x7d'"
        pure s.marks.reverse
      if !(← get).isDelimited then
        let warning := "warning: here-document at line " ++ String.ofList (Decimal.digitsOf e.line) ++
          " delimited by end-of-file (wanted \x60" ++ String.ofList e.mark ++ "')"
        modify fun s => { s with warnings := (s.line - 1, warning) :: s.warnings }
      modify fun s => { s with documents := (e.number, Mark.term true marks) :: s.documents }
      readDocuments fuel

/-- Reads the target of a redirection. -/
def readTarget : Nat → Option Nat → String → Reader Redirection
  | 0, _, _ => Reader.refuse "Too deeply nested"
  | fuel + 1, descriptor, mark => do
    let isDocument := mark == "<<" || mark == "<<-"
    if isDocument then Reader.watch { mark := true }
    match ← readToken fuel with
    | .word target isQuoted =>
      if isDocument then
        let s ← get
        let text := bareText target
        let e : Expected := ⟨s.nextDocument, text, mark == "<<-", isQuoted, s.line⟩
        set { s with expected := s.expected ++ [e], nextDocument := s.nextDocument + 1 }
        return .document (descriptor.getD 0) e.number (String.ofList text)
      else if mark = "<&" then return .duplicate (descriptor.getD 0) true target
      else if mark = ">&" then
        let isPath := match descriptor, plainText? target with
          | none, some cs => !cs.all Char.isDigit && cs != ['-']
          | _, _ => false
        if isPath && (← Reader.isRich) then return .both false target
        else return .duplicate (descriptor.getD 1) false target
      else if mark = "<<<" then return .line (descriptor.getD 0) target
      else if mark = "&>" then return .both false target
      else if mark = "&>>" then return .both true target
      else
        let (standard, direction) : Nat × Direction :=
          if mark = "<" then (0, .read)
          else if mark = "<>" then (0, .readOrMake)
          else if mark = ">>" then (1, .append)
          else if mark = ">|" then (1, .overwrite)
          else (1, .write)
        return .file (descriptor.getD standard) direction target
    | _ => Reader.unexpected

/-- Reads redirections, as many as there are. -/
def readRedirections : Nat → Reader (List Redirection)
  | 0 => Reader.refuse "Too deeply nested"
  | fuel + 1 => do
    match ← readToken fuel with
    | .redirection descriptor mark =>
      let r ← readTarget fuel descriptor mark
      return r :: (← readRedirections fuel)
    | _ =>
      Reader.push
      return []

/-- Reads the elements of a list up to the closing parenthesis. -/
def readElements : Nat → Reader (List (Option Term × Term))
  | 0 => Reader.refuse "Too deeply nested"
  | fuel + 1 => do
    match ← readToken fuel with
    | .word (.text ('[' :: cs) false :: rest) _ =>
      let term : Term := .text ('[' :: cs) false :: rest
      let items := match closedAt? 0 (withText cs rest) with
        | some (subscript, after) =>
          match assigned? .rich after with
          | some (_, value) => [(some subscript, value)]
          | none => (Braces.expand term).map (none, ·)
        | none => (Braces.expand term).map (none, ·)
      return items ++ (← readElements fuel)
    | .word term _ => return (Braces.expand term).map (none, ·) ++ (← readElements fuel)
    | .newline => readElements fuel
    | .operator ")" => return []
    | .finish => Reader.unclosed (← get).line ")" "end of file unexpected"
    | _ => Reader.unexpected

/-- Reads the list behind a word that assigns one, if there is one; the result is the
    word with it. -/
def readWithElements : Nat → Bool → Term → Reader Term
  | 0, _, _ => Reader.refuse "Too deeply nested"
  | fuel + 1, mayAssign, term => do
    match (← get).dialect, mayAssign, assignment? .rich term with
    | .rich, true, some (.mk _ _ _ []) =>
      if ← Reader.isNext '(' then
        let _ ← Reader.nextChar
        return term ++ [.elements (← readElements fuel)]
      else return term
    | _, _, _ => return term

/-- Reads the words of a simple command. -/
def readSimple :
    Nat → Nat → List Assignment → List Term → List Redirection → Reader Command
  | 0, _, _, _, _ => Reader.refuse "Too deeply nested"
  | fuel + 1, line, assignments, words, redirections => do
    if words.isEmpty then Reader.watch { aliases := true }
    match ← readToken fuel with
    | .word term _ =>
      let dialect := (← get).dialect
      let declares := match words with
        | [] => true
        | first :: _ => ((plainText? first).map String.ofList).any declaringNames.contains
      let term ← readWithElements fuel declares term
      match words, assignment? dialect term with
      | [], some a => readSimple fuel line (assignments ++ [a]) words redirections
      | _, _ =>
        let more := if dialect = .rich then Braces.expand term else [term]
        readSimple fuel line assignments (words ++ more) redirections
    | .redirection descriptor mark =>
      let r ← readTarget fuel descriptor mark
      readSimple fuel line assignments words (redirections ++ [r])
    | .operator "(" =>
      match assignments, words, redirections with
      | [], [name], [] =>
        match ← readToken fuel with
        | .operator ")" =>
          let cs := (plainText? name).getD []
          let isRich ← Reader.isRich
          if (isRich ∧ ¬ cs.isEmpty) ∨ (isName cs ∧ String.ofList cs ∉ specialNames) then
            Reader.watch .command
            let line := (← get).line
            return .define line (String.ofList cs) (← readCommand fuel)
          else Reader.refuse "Bad function name"
        | _ => Reader.unexpected (some (doubleQuoted ")"))
      | _, _, _ =>
        Reader.push
        return .simple line assignments words redirections
    | _ =>
      Reader.push
      return .simple line assignments words redirections

/-- Reads a reserved word, or an operator, that has to stand here. -/
def expect : Nat → String → Reader Unit
  | 0, _ => Reader.refuse "Too deeply nested"
  | fuel + 1, wanted => do
    match ← readToken fuel with
    | .reserved s | .operator s =>
      if s ≠ wanted then Reader.unexpected (some (doubleQuoted wanted))
    | _ => Reader.unexpected (some (doubleQuoted wanted))

/-- Reads the commands up to a reserved word, or an operator. -/
def readUpTo : Nat → String → Reader Script
  | 0, _ => Reader.refuse "Too deeply nested"
  | fuel + 1, last => do
    let script ← readList fuel false false
    expect fuel last
    return script

/-- Reads the rest of a conditional after a condition was announced. -/
def readArms : Nat → Reader (List (Script × Script) × Script)
  | 0 => Reader.refuse "Too deeply nested"
  | fuel + 1 => do
    let condition ← readUpTo fuel "then"
    let body ← readList fuel false false
    match ← readToken fuel with
    | .reserved "elif" =>
      let (arms, otherwise) ← readArms fuel
      return ((condition, body) :: arms, otherwise)
    | .reserved "else" => return ([(condition, body)], ← readUpTo fuel "fi")
    | .reserved "fi" => return ([(condition, body)], [])
    | _ => Reader.unexpected (some (doubleQuoted "fi"))

/-- Reads the patterns of an arm up to the closing parenthesis, of which the first
    token was read. -/
def readPatterns : Nat → Token → Reader (List Term)
  | 0, _ => Reader.refuse "Too deeply nested"
  | fuel + 1, first => do
    let pattern := match first with
      | .word term _ => term
      | .reserved s => [.text s.toList false]
      | _ => []
    match ← readToken fuel with
    | .operator "|" => return pattern :: (← readPatterns fuel (← readToken fuel))
    | .operator ")" => return [pattern]
    | _ => Reader.unexpected (some (doubleQuoted ")"))

/-- Reads the arms of a choice. -/
def readChoices : Nat → Reader (List (List Term × Script × Sequel))
  | 0 => Reader.refuse "Too deeply nested"
  | fuel + 1 => do
    Reader.watch { newlines := true, reserved := true }
    let t ← readToken fuel
    match t with
    | .reserved "esac" => return []
    | _ => pure ()
    let first ← match t with
      | .operator "(" => readToken fuel
      | t => pure t
    let patterns ← readPatterns fuel first
    let script ← readList fuel false true
    Reader.watch { newlines := true, reserved := true }
    match ← readToken fuel with
    | .operator ";;" => return (patterns, script, .ends) :: (← readChoices fuel)
    | .operator ";&" => return (patterns, script, .falls) :: (← readChoices fuel)
    | .operator ";;&" => return (patterns, script, .looks) :: (← readChoices fuel)
    | .reserved "esac" => return [(patterns, script, .ends)]
    | _ => Reader.unexpected (some (doubleQuoted ";;"))

/-- Reads the words that a loop goes through. -/
def readTerms : Nat → Reader (List Term)
  | 0 => Reader.refuse "Too deeply nested"
  | fuel + 1 => do
    match ← readToken fuel with
    | .word term _ =>
      let words := if ← Reader.isRich then Braces.expand term else [term]
      return words ++ (← readTerms fuel)
    | .operator ";" | .newline => return []
    | _ => Reader.unexpected

/-- Reads a token of a condition between brackets. -/
def readTestToken : Nat → Reader Token
  | 0 => Reader.refuse "Too deeply nested"
  | fuel + 1 => do
    Reader.watch { newlines := true }
    readToken fuel

/-- Reads a pattern in a condition between brackets. -/
def readTestPattern : Nat → String → Reader Term
  | 0, _ => Reader.refuse "Too deeply nested"
  | fuel + 1, operator => do
    let _ ← readWhile (fun _ c => if c = ' ' ∨ c = '\t' then some 0 else none) Reader.joinLimit 0
    let cs ← readWhile (inPattern (operator == "=~")) Reader.joinLimit 0
    if cs.isEmpty then
      let t ← readToken fuel
      let s ← get
      let message := "unexpected argument \x60" ++ t.sign ++ "' to conditional binary operator"
      let isEnd := t matches .newline
      let blamed := if isEnd then operator else t.sign
      throw ⟨if isEnd then s.line - 1 else s.line,
        "syntax error near \x60" ++ blamed ++ "'", true, [message]⟩
    else readInner fuel none { quoting := .none, braces := 1 } cs

/-- Reads a word of a condition between brackets. -/
def readTestWord : Nat → String → Reader Term
  | 0, _ => Reader.refuse "Too deeply nested"
  | fuel + 1, kind => do
    match ← readTestToken fuel with
    | .word term _ => return term
    | t =>
      let message := "unexpected argument \x60" ++ t.sign ++ "' to conditional " ++ kind ++ " operator"
      throw ⟨(← get).line, "syntax error near \x60" ++ t.sign ++ "'", true, [message]⟩

/-- Reads a condition without conjunctions and disjunctions outside parentheses. -/
def readTest : Nat → Reader Test
  | 0 => Reader.refuse "Too deeply nested"
  | fuel + 1 => do
    match ← readTestToken fuel with
    | .operator "(" =>
      let t ← readAnyTest fuel
      match ← readTestToken fuel with
      | .operator ")" => return t
      | _ => Reader.unexpected
    | .word term isQuoted =>
      let word := if isQuoted then "" else ((plainText? term).map String.ofList).getD ""
      if word = "!" then return .negation (← readTest fuel)
      if testOperators.contains word then return .unary word (← readTestWord fuel "unary")
      match ← readTestToken fuel with
      | .redirection none s => return .binary s term (← readTestWord fuel "binary")
      | .word second false =>
        let operator := ((plainText? second).map String.ofList).getD ""
        if operator = "]]" then
          Reader.push
          return .unary "-n" term
        else if operator = "=~" then return .binary "=~" term (← readTestPattern fuel operator)
        else if operator = "==" ∨ operator = "=" ∨ operator = "!=" then
          return .binary operator term (← readTestPattern fuel operator)
        else if testRelations.contains operator then
          return .binary operator term (← readTestWord fuel "binary")
        else refuse
      | .operator s =>
        if s = "&&" ∨ s = "||" ∨ s = ")" then
          Reader.push
          return .unary "-n" term
        else refuse
      | _ => refuse
    | _ => Reader.unexpected
where
  /-- Refuses the last token, which is no operator. -/
  refuse : Reader Test := do
    let s ← get
    throw ⟨s.line, "syntax error near \x60" ++ s.last.sign ++ "'", true,
      ["conditional binary operator expected"]⟩

/-- Reads a conjunction of conditions. -/
def readAllTests : Nat → Reader Test
  | 0 => Reader.refuse "Too deeply nested"
  | fuel + 1 => do
    let t ← readTest fuel
    match ← readTestToken fuel with
    | .operator "&&" => return .both t (← readAllTests fuel)
    | _ =>
      Reader.push
      return t

/-- Reads a disjunction of conditions. -/
def readAnyTest : Nat → Reader Test
  | 0 => Reader.refuse "Too deeply nested"
  | fuel + 1 => do
    let t ← readAllTests fuel
    match ← readTestToken fuel with
    | .operator "||" => return .either t (← readAnyTest fuel)
    | _ =>
      Reader.push
      return t

/-- Reads the expressions in front of a loop that counts, and its commands. -/
def readCounting : Nat → List Char → Reader Compound
  | 0, _ => Reader.refuse "Too deeply nested"
  | fuel + 1, cs => do
    let start := cs.takeWhile (· ≠ ';')
    let rest := (cs.drop start.length).drop 1
    let condition := rest.takeWhile (· ≠ ';')
    let step := (rest.drop condition.length).drop 1
    let terms ← [start, condition, step].mapM fun cs => readExpression fuel cs
    Reader.watch .command
    match ← readToken fuel with
    | .operator ";" => Reader.watch .command
    | _ =>
      Reader.push
    let body ← match ← readToken fuel with
      | .reserved "\x7b" => readUpTo fuel "\x7d"
      | .reserved "do" => readUpTo fuel "done"
      | _ => Reader.unexpected (some (doubleQuoted "do"))
    match terms with
    | [start, condition, step] => return .counting start condition step body
    | _ => return .counting [] [] [] body

/-- Reads a command. -/
def readCommand : Nat → Reader Command
  | 0 => Reader.refuse "Too deeply nested"
  | fuel + 1 => do
    let line := (← get).line
    let finish (body : Compound) : Reader Command := do
      Reader.watch .inLine
      return .compound line body (← readRedirections fuel)
    match ← readToken fuel with
    | .reserved "if" =>
      let (arms, otherwise) ← readArms fuel
      finish (.conditional arms otherwise)
    | .reserved "while" =>
      let condition ← readUpTo fuel "do"
      finish (.loop condition false (← readUpTo fuel "done"))
    | .reserved "until" =>
      let condition ← readUpTo fuel "do"
      finish (.loop condition true (← readUpTo fuel "done"))
    | .reserved "[[" =>
      let t ← readAnyTest fuel
      match ← readTestToken fuel with
      | .word [.text [']', ']'] false] _ => finish (.condition t)
      | _ => Reader.unexpected
    | .reserved "function" =>
      let cs := (((← readToken fuel).plain?).getD "").toList
      match ← readToken fuel with
      | .operator "(" => expect fuel ")"
      | _ => Reader.push
      Reader.watch .command
      if (← get).isPushed then
        match (← get).last with
        | .word [.text ['\x7b'] false] _ =>
          let _ ← Reader.note (.reserved "\x7b")
        | .newline =>
          modify fun s => { s with isPushed := false }
        | _ => pure ()
      return .define line (String.ofList cs) (← readCommand fuel)
    | .reserved "for" =>
      if ← isDoubleNext then
        let start ← get
        let _ ← readWhile (fun _ c => if c = '(' then none else some 0) Reader.joinLimit 0
        let _ ← Reader.nextChar
        let _ ← Reader.nextChar
        match ← readDouble? with
        | some cs => return ← finish (← readCounting fuel cs)
        | none => set start
      let name := ((← readToken fuel).plain?).getD ""
      if ¬ isName name.toList then Reader.refuse "Bad for loop variable"
      Reader.watch .command
      let words ← match ← readToken fuel with
        | .reserved "in" => some <$> readTerms fuel
        | .operator ";" => pure none
        | _ =>
          Reader.push
          pure none
      Reader.watch .command
      expect fuel "do"
      finish (.each name words (← readUpTo fuel "done"))
    | .reserved "case" =>
      let word ← match ← readToken fuel with
        | .word term _ => pure term
        | _ => Reader.unexpected (some "word")
      Reader.watch .command
      expect fuel "in"
      finish (.choice word (← readChoices fuel))
    | .operator "(" =>
      if (← Reader.isRich) ∧ (← Reader.isNext '(') then
        let start ← get
        let _ ← Reader.nextChar
        match ← readDouble? with
        | some cs => return ← finish (.calculation (← readExpression fuel cs))
        | none => set start
      finish (.subshell (← readUpTo fuel ")"))
    | .reserved "\x7b" => finish (.group (← readUpTo fuel "\x7d"))
    | .word _ _ | .redirection _ _ =>
      Reader.push
      readSimple fuel line [] [] []
    | _ => Reader.unexpected

/-- Reads the commands of a pipeline. -/
def readStages : Nat → Reader (List Command)
  | 0 => Reader.refuse "Too deeply nested"
  | fuel + 1 => do
    let c ← readCommand fuel
    match ← readToken fuel with
    | .operator "|" =>
      Reader.watch .command
      return c :: (← readStages fuel)
    | .operator "|&" =>
      Reader.watch .command
      return c.withComplaints :: (← readStages fuel)
    | _ =>
      Reader.push
      return [c]

/-- Reads a pipeline. -/
def readPipeline : Nat → Reader Pipeline
  | 0 => Reader.refuse "Too deeply nested"
  | fuel + 1 => do
    match ← readToken fuel with
    | .reserved "!" =>
      Reader.watch .inLine
      return .mk true (← readStages fuel)
    | .reserved "time" =>
      Reader.watch .inLine
      return .mk false (← readStages fuel)
    | _ =>
      Reader.push
      return .mk false (← readStages fuel)

/-- Reads the pipelines that follow one under a condition. -/
def readConditions : Nat → Reader (List (Bool × Pipeline))
  | 0 => Reader.refuse "Too deeply nested"
  | fuel + 1 => do
    match ← readToken fuel with
    | .operator "&&" =>
      Reader.watch .command
      let p ← readPipeline fuel
      return (true, p) :: (← readConditions fuel)
    | .operator "||" =>
      Reader.watch .command
      let p ← readPipeline fuel
      return (false, p) :: (← readConditions fuel)
    | _ =>
      Reader.push
      return []

/-- Reads commands up to something that ends them. A list that is no line goes on
    behind newlines; it may be empty only if `mayEnd`, but any list may end behind a
    separator. -/
def readList : Nat → Bool → Bool → Reader Script
  | 0, _, _ => Reader.refuse "Too deeply nested"
  | fuel + 1, isLine, mayEnd => do
    Reader.watch { newlines := !isLine, reserved := true, aliases := true }
    let t ← readToken fuel
    match t with
    | .newline =>
      readDocuments fuel
      return []
    | .finish =>
      Reader.push
      readDocuments fuel
      return []
    | t =>
      Reader.push
      if !isLine ∧ mayEnd ∧ t.endsList then return []
      let first ← readPipeline fuel
      let rest ← readConditions fuel
      match ← readToken fuel with
      | .operator "&" => return .mk first rest true :: (← readList fuel isLine true)
      | .operator ";" => return .mk first rest false :: (← readList fuel isLine true)
      | .newline =>
        Reader.push
        return .mk first rest false :: (← readList fuel isLine true)
      | .finish =>
        Reader.push
        readDocuments fuel
        return [.mk first rest false]
      | _ =>
        if isLine then Reader.unexpected
        Reader.push
        return [.mk first rest false]

end

/-- The word in which a text stands for itself, as between double quotes. -/
def documentTerm (fuel : Nat) (dialect : Dialect) (text : String)
    (aliases : List (String × String)) (nextDocument : Nat) : Except Refusal Term := do
  let border : Border := ⟨['\x00'], false⟩
  let read : Reader (Option Char × Scan) := do
    readMarks fuel (some border) false (← Reader.next)
      { frame := { quoting := .double, isDouble := true } }
  let ((_, s), _) ← read.run (.start dialect text aliases 1 nextDocument)
  return Mark.term true s.marks.reverse

/-- Reads the next line; none if the text has ended. -/
def readLine (fuel : Nat) : Reader (Option Script) := do
  modify fun s => { s with isPushed := false, watch := {}, expected := [] }
  let script ← readList fuel true true
  match script, (← get).last with
  | [], .finish => return none
  | _, _ => return some script

end SimSweep.Shell
