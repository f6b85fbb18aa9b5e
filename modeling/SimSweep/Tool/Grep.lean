import SimSweep.Tool.Lines
import SimSweep.Tool.Regex

/-! # Looking for lines

    The lines of files that a regular expression fits, or does not fit, are shown or
    counted.
-/

namespace SimSweep.Tool.Grep

open Kernel Tool

/-- What is asked for. -/
structure Query where
  regex : Regex
  ignoresCase : Bool
  inverts : Bool
  counts : Bool
  numbers : Bool
  offsets : Bool
  onlyParts : Bool
  isQuiet : Bool
  /-- Whether names of files with lines that fit are listed, or of those without. -/
  listsFitting : Bool
  listsOthers : Bool
  showsNames : Bool
  most : Option Nat
  before : Nat
  after : Nat
  isText : Bool
  inputName : String

/-- The options. -/
def choices : List Choice :=
  let value (letter : Char) (name : String) : Choice := { letter, name, takes := .value }
  [value 'e' "regexp", value 'f' "file", value 'm' "max-count", value 'A' "after-context",
   value 'B' "before-context", value 'C' "context", value '\x01' "label",
   { letter := '\x02', name := "color", takes := .maybe },
   { letter := '\x02', name := "colour", takes := .maybe },
   { letter := 'E', name := "extended-regexp" }, { letter := 'F', name := "fixed-strings" },
   { letter := 'G', name := "basic-regexp" }, { letter := 'P', name := "perl-regexp" },
   { letter := 'i', name := "ignore-case" }, { letter := 'y' },
   { letter := 'v', name := "invert-match" }, { letter := 'c', name := "count" },
   { letter := 'n', name := "line-number" }, { letter := 'b', name := "byte-offset" },
   { letter := 'o', name := "only-matching" }, { letter := 'q', name := "quiet" },
   { letter := 'q', name := "silent" }, { letter := 's', name := "no-messages" },
   { letter := 'l', name := "files-with-matches" }, { letter := 'L', name := "files-without-match" },
   { letter := 'H', name := "with-filename" }, { letter := 'h', name := "no-filename" },
   { letter := 'w', name := "word-regexp" }, { letter := 'x', name := "line-regexp" },
   { letter := 'a', name := "text" }, { letter := 'I' }, { letter := 'r', name := "recursive" },
   { letter := 'R', name := "dereference-recursive" }, { letter := 'U', name := "binary" },
   { letter := '\x03', name := "line-buffered" }, { letter := 'z', name := "null-data" }]

/-- Says how lines are looked for, and ends the program. -/
def showUsage : Deed Unit := do
  say "Usage: grep [OPTION]... PATTERNS [FILE]...\nTry 'grep --help' for more information.\n"
  stop 2

/-- What says how often something fits, where there is nothing in front of it. -/
def looseRepeats (isFirst : Bool) : List Char → List String
  | [] => []
  | '\\' :: _ :: rest => looseRepeats false rest
  | c :: rest =>
    if isFirst ∧ (c = '*' ∨ c = '+' ∨ c = '?') then String.singleton c :: looseRepeats true rest
    else if isFirst ∧ c = '\x7b' ∧ (rest.head?.any Char.isDigit) then
      "\x7b...\x7d" :: looseRepeats true rest
    else looseRepeats (c == '(' || c == '|') rest

/-- The regular expression for a pattern. -/
def regexOf (g : Given) (pattern : List Char) : Deed Regex := do
  let kind := g.last? "EFGP"
  let plain : Regex := pattern.foldr (fun c r => .both (.char c) r) .nothing
  let isExtended := kind == some 'E' || kind == some 'P'
  let r ← if kind = some 'F' then pure plain
    else
      if pattern.head? = some '[' ∧ (pattern.drop 1).head? = some ':' ∧
          [':', ']'].isSuffixOf pattern ∧ 4 < pattern.length then
        abort "character class syntax is [[:space:]], not [:space:]" 2
      if kind = some 'E' then
        (looseRepeats true pattern).forM fun s =>
          complain ("warning: " ++ s ++ " at start of expression")
      match Regex.ofText isExtended pattern with
      | .ok r => pure r
      | .error f => abort f.message 2
  if g.has 'x' then return .both (.spot .lineStart) (.both r (.spot .lineEnd))
  else if g.has 'w' then return .both (.spot .behindNoWord) (.both r (.spot .beforeNoWord))
  else return r

/-- The parts of a line that fit, from a place on. Parts without characters are passed
    over. The number bounds the parts. -/
def partsOf (r : Regex) (t : Regex.Text) : Nat → Nat → List Regex.Fit
  | 0, _ => []
  | fuel + 1, i =>
    match r.find? t i with
    | none => []
    | some fit =>
      if fit.last = fit.first then
        if fit.last < t.chars.size then partsOf r t fuel (fit.last + 1) else []
      else fit :: partsOf r t fuel fit.last

/-- A line with its number and the place of its first character. -/
structure Line where
  chars : List Char
  number : Nat
  offset : Nat

/-- The lines of a text. -/
def linesFrom (cs : List Char) : List Line :=
  let (lines, _, _) := (linesOf cs).foldl (fun (lines, number, offset) chars =>
    (({ chars, number, offset } : Line) :: lines, number + 1, offset + chars.length + 1)) ([], 1, 0)
  lines.reverse

/-- What stands in front of a line that is shown. -/
def lead (q : Query) (name : String) (mark : String) (number offset : Nat) : String :=
  (if q.showsNames then name ++ mark else "") ++
    (if q.numbers then digits number ++ mark else "") ++
    (if q.offsets then digits offset ++ mark else "")

/-- The text for a line that is wanted. -/
def shown (q : Query) (name : String) (l : Line) : String :=
  if q.onlyParts then
    if q.inverts then ""
    else
      let t : Regex.Text := { chars := l.chars.toArray, ignoresCase := q.ignoresCase }
      String.join ((partsOf q.regex t (l.chars.length + 1) 0).map fun fit =>
        lead q name ":" l.number (l.offset + fit.first) ++ String.ofList (fit.group t 0) ++ "\n")
  else lead q name ":" l.number l.offset ++ String.ofList l.chars ++ "\n"

/-- The text for the lines that are wanted and those around them, where the first number
    is that of the last line that was shown, and the second one counts the lines that
    still follow. -/
def shownAround (q : Query) (name : String) :
    List (Line × Bool) → List Line → Nat → Nat → List String
  | [], _, _, _ => []
  | (l, isWanted) :: rest, passed, last, follows =>
    let context (l : Line) : String :=
      if q.onlyParts then "" else lead q name "-" l.number l.offset ++ String.ofList l.chars ++ "\n"
    if isWanted then
      let lines := ((passed.take q.before).filter fun p => last < p.number).reverse
      let first := (lines.head?.map (·.number)).getD l.number
      let gap := if last != 0 && last + 1 < first && (q.before != 0 || q.after != 0) then "--\n" else ""
      (gap ++ String.join (lines.map context) ++ shown q name l) ::
        shownAround q name rest (l :: passed) l.number q.after
    else if 0 < follows then
      context l :: shownAround q name rest (l :: passed) l.number (follows - 1)
    else shownAround q name rest (l :: passed) last 0

/-- The lines of a text up to the last that may be wanted. -/
def upTo (most : Nat) (after : Nat) : List (Line × Bool) → List (Line × Bool)
  | [] => []
  | (l, isWanted) :: rest =>
    if isWanted then
      match most with
      | 0 => []
      | 1 => (l, true) :: (rest.take after).takeWhile fun (_, w) => !w
      | n + 2 => (l, true) :: upTo (n + 1) after rest
    else (l, false) :: upTo most after rest

/-- Looks through one file. The result is whether a line is wanted. -/
def search (q : Query) (name : String) (cs : List Char) : Deed Bool := do
  let title := if name = "-" then q.inputName else name
  let isWanted (l : Line) : Bool :=
    let t : Regex.Text := { chars := l.chars.toArray, ignoresCase := q.ignoresCase }
    (q.regex.find? t 0).isSome != q.inverts
  let marked := (linesFrom cs).map fun l => (l, isWanted l)
  let marked := match q.most with
    | some n => upTo n q.after marked
    | none => marked
  let wanted := marked.filter Prod.snd
  let isBinary := !q.isText && cs.contains '\x00'
  if q.isQuiet then
    if ¬ wanted.isEmpty then stop 0
  else if q.listsFitting then
    if ¬ wanted.isEmpty then put (title ++ "\n")
  else if q.listsOthers then
    if wanted.isEmpty then put (title ++ "\n")
  else if q.counts then
    put ((if q.showsNames then title ++ ":" else "") ++ digits wanted.length ++ "\n")
  else if isBinary then
    if ¬ wanted.isEmpty then complain (title ++ ": binary file matches")
  else
    let text := String.join (shownAround q title marked [] 0 0)
    if ¬ text.isEmpty then put text
  return !wanted.isEmpty

/-- Arguments in which a number behind a dash is the number of lines around. -/
def modernArguments (args : List String) : List String :=
  args.map fun a => match a.toList with
    | '-' :: c :: cs => if (c :: cs).all Char.isDigit then "-C" ++ String.ofList (c :: cs) else a
    | _ => a

/-- Looks for lines in files. The letter is that of the usual kind of patterns. -/
def tool (kind : Option Char) : Deed Nat := do
  let refuse : Refusal := fun message => do
    complain message
    showUsage
  let g ← takeOptionsOr refuse choices (modernArguments (← read).args)
  let g := { g with options := (kind.toList.map (·, "")) ++ g.options }
  let number (letter : Char) (fault : String → String) : Deed (Option Nat) := do
    match g.value? letter with
    | none => return none
    | some s =>
      if s.isEmpty ∨ ¬ s.toList.all Char.isDigit then abort (fault s) 2
      return some (Decimal.valueOf s.toList)
  let context (letter : Char) : Deed (Option Nat) :=
    number letter fun s => s ++ ": invalid context length argument"
  let most ← number 'm' fun _ => "invalid max count"
  let around := (← context 'C').getD 0
  let after := (← context 'A').getD around
  let before := (← context 'B').getD around
  let files ← (g.values 'f').mapM fun name => do
    match ← Tool.charsOf name with
    | .ok cs => return linesOf cs
    | .error f => abort (fileComplaint name f) 2
  let given := g.values 'e'
  let takesFirst := given.isEmpty && !g.has 'f'
  if takesFirst ∧ g.operands.isEmpty then showUsage
  let (texts, names) :=
    if takesFirst then (g.operands.take 1, g.operands.drop 1) else (given, g.operands)
  let patterns := texts.flatMap (fun s => splitAt '\n' s.toList) ++ files.flatten
  let regexes ← patterns.mapM (regexOf g)
  let regex := match regexes with
    | [] => .oneOf false []
    | r :: rest => rest.foldl .either r
  let names := if names.isEmpty then ["-"] else names
  let q : Query :=
    { regex, ignoresCase := g.has 'i' || g.has 'y', inverts := g.has 'v', counts := g.has 'c'
      numbers := g.has 'n', offsets := g.has 'b', onlyParts := g.has 'o', isQuiet := g.has 'q'
      listsFitting := g.has 'l', listsOthers := g.has 'L'
      showsNames := match g.last? "Hh" with
        | some c => c == 'H'
        | none => 1 < names.length
      most, before, after, isText := g.has 'a'
      inputName := (g.value? '\x01').getD "(standard input)" }
  if most = some 0 then return 1
  let results ← names.mapM fun name => do
    match ← Tool.charsOf name with
    | .ok cs => return (← search q name cs, true)
    | .error f =>
      if ¬ g.has 's' then complain (fileComplaint name f)
      return (false, f == .isDirectory && g.has 's')
  return if results.all Prod.snd then (if results.any Prod.fst then 0 else 1) else 2

end SimSweep.Tool.Grep
