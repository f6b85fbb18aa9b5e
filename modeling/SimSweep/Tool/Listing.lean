import SimSweep.Time.Calendar
import SimSweep.Tool.Filing

/-! # Tools that list files

    The names in directories with what is known about the files, and the files below a
    directory that fulfil conditions.
-/

namespace SimSweep.Tool

open Kernel

/-! ## Section 1: What is shown of a file -/

/-- The letter for the kind of a file. -/
def kindLetter : Content → Char
  | .directory _ _ => 'd'
  | .link _ => 'l'
  | .pipe _ => 'p'
  | .device _ => 'c'
  | _ => '-'

/-- The letters for the permission bits of a file. -/
def modeText (mode : Nat) : String :=
  let three (bits : Nat) (isSet : Bool) (mark : Char) : List Char :=
    let x := bits &&& 1 != 0
    [if bits &&& 4 ≠ 0 then 'r' else '-', if bits &&& 2 ≠ 0 then 'w' else '-',
      if isSet then (if x then mark else mark.toUpper) else if x then 'x' else '-']
  String.ofList (three (mode / 64 % 8) (mode &&& 0o4000 != 0) 's' ++
    three (mode / 8 % 8) (mode &&& 0o2000 != 0) 's' ++ three (mode % 8) (mode &&& 0o1000 != 0) 't')

/-- How large a file is. -/
def sizeOf (content : Content) : Nat :=
  match content with
  | .regular bytes => bytes.size
  | .link target => target.utf8ByteSize
  | .directory _ _ => 4096
  | .program _ => 65536
  | _ => 0

/-- How many links lead to a file. -/
def linksTo (files : Files) (id : Nat) : Nat :=
  match files.contentOf id with
  | .directory entries _ =>
    2 + entries.countP fun (_, k) => (files.contentOf k).isDirectory
  | _ => files.namesTo id

/-- The names of months, cut short. -/
def monthNames : List String :=
  ["Jan", "Feb", "Mar", "Apr", "May", "Jun", "Jul", "Aug", "Sep", "Oct", "Nov", "Dec"]

/-- A number with zeros in front. -/
def zeroPadded (width n : Nat) : String :=
  let ds := digits n
  String.ofList (List.replicate (width - ds.length) '0') ++ ds

/-- A moment, in microseconds, as it is shown in lists. -/
def shortTime (moment : Int) : String :=
  let seconds := moment.fdiv 1000000
  let d := Date.ofDays (seconds.fdiv 86400)
  let second := (seconds.fmod 86400).toNat
  (monthNames[d.month - 1]?).getD "" ++ " " ++ rightAligned 2 (digits d.day) ++ " " ++
    zeroPadded 2 (second / 3600) ++ ":" ++ zeroPadded 2 (second / 60 % 60)

/-! ## Section 2: Listing directories -/

/-- What is asked for. -/
structure ListStyle where
  isLong : Bool
  hasNumbers : Bool
  marksKinds : Bool
  marksDirectories : Bool
  isQuoted : Bool
  hasSizes : Bool
  showsNodes : Bool
  isByComma : Bool

/-- A name with a mark for the kind of its file. -/
def markedName (s : ListStyle) (name : String) (node : Node) : String :=
  let name := if s.isQuoted then "\"" ++ name ++ "\"" else name
  let mark := match node.content with
    | .directory _ _ => if s.marksKinds ∨ s.marksDirectories then "/" else ""
    | .link _ => if s.marksKinds ∧ ¬ s.isLong then "@" else ""
    | .pipe _ => if s.marksKinds then "|" else ""
    | .device _ => ""
    | _ => if s.marksKinds ∧ node.mode &&& 0o111 ≠ 0 then "*" else ""
  name ++ mark

/-- The lines for some files. -/
def listLines (s : ListStyle) (files : Files) (items : List (String × Nat)) : List String :=
  let nodes := items.filterMap fun (name, id) => (files.node? id).map fun node => (name, id, node)
  let width (f : Nat × Node → Nat) : Nat :=
    (nodes.map fun (_, id, node) => (digits (f (id, node))).length).foldl max 0
  let links := width fun (id, _) => linksTo files id
  let sizes := width fun (_, node) => sizeOf node.content
  let owner := if s.hasNumbers then "0 0" else "root root"
  nodes.map fun (name, id, node) =>
    let lead := if s.showsNodes then digits (id + 2) ++ " " else ""
    let shown := markedName s name node
    if s.isLong then
      let target := match node.content with
        | .link t => " -> " ++ t
        | _ => ""
      lead ++ String.singleton (kindLetter node.content) ++ modeText node.mode ++ " " ++
        rightAligned links (digits (linksTo files id)) ++ " " ++ owner ++ " " ++
        rightAligned sizes (digits (sizeOf node.content)) ++ " " ++ shortTime node.modified ++
        " " ++ shown ++ target
    else lead ++ shown

/-- The text for some files. -/
def listText (s : ListStyle) (files : Files) (items : List (String × Nat)) : String :=
  let lines := listLines s files items
  if s.isByComma then
    if lines.isEmpty then "" else ", ".intercalate lines ++ "\n"
  else String.join (lines.map (· ++ "\n"))

/-- Lists files. -/
def ls : Deed Nat := do
  let g ← takeOptions
    ([{ letter := 'a', name := "all" }, { letter := 'A', name := "almost-all" },
      { letter := 'd', name := "directory" }, { letter := 'F', name := "classify", takes := .nothing },
      { letter := 'l' }, { letter := 'n', name := "numeric-uid-gid" }, { letter := 'i', name := "inode" },
      { letter := 'r', name := "reverse" }, { letter := 'R', name := "recursive" },
      { letter := 'Q', name := "quote-name" }, { letter := 's', name := "size" },
      { letter := '\x01', name := "color", takes := .maybe },
      { letter := 'h', name := "human-readable" }, { letter := 'w', name := "width", takes := .value },
      { letter := 'I', name := "ignore", takes := .value },
      { letter := 'G', name := "no-group" }, { letter := 'L', name := "dereference" },
      { letter := 'N', name := "literal" }, { letter := 'S' }, { letter := 't' }, { letter := 'U' },
      { letter := 'm' }, { letter := 'p' }] ++ flags "1CBbcDfgHkoquvxXZ") (← read).args 2
  let s : ListStyle :=
    { isLong := g.has 'l' || g.has 'n' || g.has 'g' || g.has 'o', hasNumbers := g.has 'n'
      marksKinds := g.has 'F', marksDirectories := g.has 'p', isQuoted := g.has 'Q'
      hasSizes := g.has 's', showsNodes := g.has 'i', isByComma := g.has 'm' && !g.has 'l' }
  let paths := if g.operands.isEmpty then ["."] else g.operands
  let found ← paths.mapM fun path => do
    match ← nodeOf path (!(s.isLong || g.has 'F' || g.has 'd') || path.endsWith "/") with
    | .ok (id, node) => return some (path, id, node)
    | .error .notFound =>
      match ← nodeOf path false with
      | .ok (id, node) => return some (path, id, node)
      | .error f => refuse path f
    | .error f => refuse path f
  let files ← Work.look (·.files)
  let order (items : List (String × Nat × Node)) : List (String × Nat × Node) :=
    let newest := items.mergeSort fun a b => decide (b.2.2.modified ≤ a.2.2.modified)
    let byName := items.mergeSort fun a b => decide (a.1 ≤ b.1)
    let sorted :=
      if g.has 'U' ∨ g.has 'f' then items
      else if g.has 't' then newest
      else if g.has 'S' then
        byName.mergeSort fun a b => decide (sizeOf b.2.2.content ≤ sizeOf a.2.2.content)
      else byName
    if g.has 'r' then sorted.reverse else sorted
  let there := order (found.filterMap id)
  let isOpened (n : Node) : Bool := n.content.isDirectory && !g.has 'd'
  let plain := there.filter fun (_, _, n) => !isOpened n
  let directories := there.filter fun (_, _, n) => isOpened n
  let names (items : List (String × Nat × Node)) : List (String × Nat) :=
    items.map fun (name, id, _) => (name, id)
  if ¬ plain.isEmpty then put (listText s files (names plain))
  let entriesOf (id : Nat) : List (String × Nat × Node) :=
    let content := files.contentOf id
    let all := content.entries.filter fun (name, _) =>
      g.has 'a' || g.has 'A' || g.has 'f' || !name.startsWith "."
    let dots := if g.has 'a' ∨ g.has 'f' then [(".", id), ("..", content.above)] else []
    order ((dots ++ all).filterMap fun (name, k) => (files.node? k).map fun n => (name, k, n))
  let blocks := directories.flatMap fun (path, id, _) =>
    blocksOf (fun k => names (entriesOf k)) files (g.has 'R') 1000 path id
  let hasTitles := 1 < paths.length || g.has 'R'
  let texts := blocks.map fun (path, items) =>
    (if hasTitles then path ++ ":\n" else "") ++ (if s.isLong then "total 0\n" else "") ++
      listText s files items
  if ¬ texts.isEmpty then
    put ((if plain.isEmpty then "" else "\n") ++ "\n".intercalate texts)
  return if found.all Option.isSome then 0 else 2
where
  /-- Complains about a path. -/
  refuse (path : String) (f : Fault) : Deed (Option (String × Nat × Node)) := do
    complain ("cannot access " ++ quoteName path ++ ": " ++ f.message)
    return none
  /-- The directories that are listed, with their files. The number bounds the depth. -/
  blocksOf (entries : Nat → List (String × Nat)) (files : Files) (isDeep : Bool) :
      Nat → String → Nat → List (String × List (String × Nat))
    | 0, _, _ => []
    | fuel + 1, path, id =>
      let items := entries id
      let inner := if ¬ isDeep then [] else items.filter fun (name, k) =>
        (files.contentOf k).isDirectory && name != "." && name != ".."
      (path, items) :: inner.flatMap fun (name, k) =>
        blocksOf entries files isDeep fuel (pathIn path name) k

/-! ## Section 3: What is known about a file -/

/-- What a directive of a format stands for. -/
def statText (files : Files) (path : String) (id : Nat) (node : Node) (c : Char) : String :=
  let seconds := intText (node.modified.fdiv 1000000)
  match c with
  | 'n' => path
  | 'N' => quoteName path ++ (match node.content with
    | .link t => " -> " ++ quoteName t
    | _ => "")
  | 's' => digits (sizeOf node.content)
  | 'a' => String.ofList (Nat.toDigits 8 node.mode)
  | 'A' => String.singleton (kindLetter node.content) ++ modeText node.mode
  | 'F' => match node.content with
    | .directory _ _ => "directory"
    | .link _ => "symbolic link"
    | .pipe _ => "fifo"
    | .device _ => "character special file"
    | content => if sizeOf content = 0 then "regular empty file" else "regular file"
  | 'h' => digits (linksTo files id)
  | 'i' => digits (id + 2)
  | 'u' | 'g' => "0"
  | 'U' | 'G' => "root"
  | 'Y' | 'X' | 'Z' => String.ofList seconds
  | '%' => "%"
  | _ => "?"

/-- Shows what is known about files, in a format. -/
def stat : Deed Nat := do
  let g ← options
    [{ letter := 'c', name := "format", takes := .value }, { letter := 'L', name := "dereference" },
     { letter := '\x01', name := "printf", takes := .value }, { letter := 't', name := "terse" }]
  if g.operands.isEmpty then misuse "missing operand"
  let format := ((g.value? 'c').map (· ++ "\n")).getD ((g.value? '\x01').getD "%n\n")
  forOperands g.operands fun path => do
    match ← nodeOf path (g.has 'L') with
    | .ok (id, node) =>
      let files ← Work.look (·.files)
      put (expand_ (statText files path id node) (g.has '\x01') format.toList)
      return true
    | .error f =>
      complain ("cannot statx " ++ quoteName path ++ ": " ++ f.message)
      return false
where
  /-- A format with its directives replaced. -/
  expand_ (f : Char → String) (hasEscapes : Bool) : List Char → String
    | '%' :: c :: rest => f c ++ expand_ f hasEscapes rest
    | '\\' :: 'n' :: rest =>
      (if hasEscapes then "\n" else "\\n") ++ expand_ f hasEscapes rest
    | '\\' :: 't' :: rest =>
      (if hasEscapes then "\t" else "\\t") ++ expand_ f hasEscapes rest
    | c :: rest => String.singleton c ++ expand_ f hasEscapes rest
    | [] => ""

end SimSweep.Tool
