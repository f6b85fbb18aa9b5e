import SimSweep.Shell.Fraction
import SimSweep.Tool.Lines

/-! # Tools on the order of lines

    Sorting lines by keys, and looking for lines that are the same.
-/

namespace SimSweep.Tool

open Kernel

/-! ## Section 1: Keys -/

/-- How keys are compared. -/
structure Comparing where
  ignoresBlanks : Bool := false
  dictionary : Bool := false
  folds : Bool := false
  printable : Bool := false
  reverses : Bool := false
  /-- The letter of the kind of values, if they are not texts. -/
  kind : Option Char := none
  deriving DecidableEq

/-- A way to compare with a further letter. -/
def Comparing.add (c : Comparing) (letter : Char) : Comparing :=
  match letter with
  | 'b' => { c with ignoresBlanks := true }
  | 'd' => { c with dictionary := true }
  | 'f' => { c with folds := true }
  | 'i' => { c with printable := true }
  | 'r' => { c with reverses := true }
  | letter => { c with kind := some letter }

/-- A key: a part of a line, and how it is compared. -/
structure Key where
  firstField : Nat := 0
  firstChar : Nat := 0
  /-- The field in which it ends and the number of characters of that field, where none
      stands for all. -/
  last : Option (Nat × Nat) := none
  comparing : Comparing := {}
  /-- Whether blanks are passed over at its start, and at its end. -/
  skipsFirst : Bool := false
  skipsLast : Bool := false

/-- Whether a character is a blank between fields. -/
def isFieldBlank (c : Char) : Bool := c == ' ' || c == '\t'

/-- A line behind so many fields. -/
def behindFields (tab : Option Char) : Nat → List Char → List Char
  | 0, cs => cs
  | n + 1, cs =>
    match tab with
    | some t => behindFields tab n ((cs.dropWhile (· ≠ t)).drop 1)
    | none => behindFields tab n ((cs.dropWhile isFieldBlank).dropWhile fun c => !isFieldBlank c)

/-- The length of a line up to the end of so many fields. -/
def lengthOfFields (tab : Option Char) (n : Nat) (cs : List Char) : Nat :=
  match tab, n with
  | _, 0 => 0
  | some t, n + 1 =>
    let rest := behindFields tab n cs
    cs.length - (rest.dropWhile (· ≠ t)).length
  | none, n => cs.length - (behindFields none n cs).length

/-- The key in a line. -/
def Key.of (k : Key) (tab : Option Char) (cs : List Char) : List Char :=
  let start := behindFields tab k.firstField cs
  let start := if k.skipsFirst then start.dropWhile isFieldBlank else start
  let start := start.drop k.firstChar
  match k.last with
  | none => start
  | some (field, count) =>
    let limit :=
      if count = 0 then lengthOfFields tab (field + 1) cs
      else
        let rest := behindFields tab field cs
        let rest := if k.skipsLast then rest.dropWhile isFieldBlank else rest
        min cs.length (cs.length - rest.length + count)
    start.take (limit - (cs.length - start.length))

/-- A decimal number in front of a text, in units of its last place, with the number of
    places and what follows it. -/
def leadingNumber (cs : List Char) : Int × Nat × List Char :=
  let cs := cs.dropWhile isFieldBlank
  let (negative, cs) := match cs with
    | '-' :: rest => (true, rest)
    | rest => (false, rest)
  let whole := cs.takeWhile Char.isDigit
  let rest := cs.drop whole.length
  let (part, rest) := match rest with
    | '.' :: more => (more.takeWhile Char.isDigit, more.dropWhile Char.isDigit)
    | more => ([], more)
  let n : Int := Decimal.valueOf (whole ++ part)
  (if negative then -n else n, part.length, rest)

/-- Compares two decimal numbers in units of their last places. -/
def compareNumbers (a b : Int × Nat) : Ordering :=
  let places := max a.2 b.2
  compare (a.1 * Nat.pow 10 (places - a.2)) (b.1 * Nat.pow 10 (places - b.2))

/-- The rank of a unit. -/
def unitRank : List Char → Nat
  | c :: _ => (("KMGTPEZYRQ".toList.findIdx? (· == c)).map (· + 1)).getD (if c = 'k' then 1 else 0)
  | [] => 0

/-- The number of the month whose name starts a text; zero stands for none. -/
def monthOf (cs : List Char) : Nat :=
  let name := ((cs.dropWhile isFieldBlank).take 3).map Char.toUpper
  (["JAN", "FEB", "MAR", "APR", "MAY", "JUN", "JUL", "AUG", "SEP", "OCT", "NOV", "DEC"].findIdx?
    (·.toList == name)).elim 0 (· + 1)

/-- A rank for texts that are no numbers, for those that stand for none, and for
    others. -/
def generalRank (cs : List Char) : Nat × Binary64 :=
  match Shell.Fraction.leading? (cs.dropWhile isFieldBlank) with
  | none => (0, .zero false)
  | some (x, _) => if x.value matches .nan then (1, .zero false) else (2, x.value)

/-- Compares two numbers that are none of the ones that stand for no number. -/
def compareBinary (a b : Binary64) : Ordering :=
  let rank : Binary64 → Int
    | .nan => 0
    | .infinite negative => if negative then -(Nat.pow 2 63) else Nat.pow 2 63
    | .finite negative k => if negative then -(k.val : Int) else k.val
  compare (rank a) (rank b)

/-- The order of characters in versions: a tilde in front of the end, then letters, then
    others. -/
def versionRank (c : Char) : Int :=
  if c.isDigit then 0 else if c = '~' then -1 else if c.isAlpha then c.toNat else c.toNat + 256

/-- Compares versions: digits in them are numbers. The number bounds the characters. -/
def compareVersions : Nat → List Char → List Char → Ordering
  | 0, _, _ => .eq
  | fuel + 1, a, b =>
    let isText (c : Char) : Bool := !c.isDigit
    let (s, t) := (a.takeWhile isText, b.takeWhile isText)
    let rank (cs : List Char) (i : Nat) : Int := (cs[i]?.map versionRank).getD 0
    let texts : Ordering := (List.range (max s.length t.length)).foldl (fun (o : Ordering) i =>
      o.then (compare (rank s i) (rank t i))) .eq
    let (a, b) := (a.drop s.length, b.drop t.length)
    let (m, n) := (a.takeWhile Char.isDigit, b.takeWhile Char.isDigit)
    let here := texts.then (compare (Decimal.valueOf m) (Decimal.valueOf n))
    if here ≠ .eq ∨ (a.isEmpty ∧ b.isEmpty) then here
    else compareVersions fuel (a.drop m.length) (b.drop n.length)

/-- Compares two texts by the codes of their characters. -/
def compareChars (a b : List Char) : Ordering := compare (String.ofList a) (String.ofList b)

/-- Compares two keys. -/
def Comparing.compare (c : Comparing) (a b : List Char) : Ordering :=
  let plain (cs : List Char) : List Char :=
    let cs := if c.dictionary then cs.filter fun d => d.isAlphanum || isFieldBlank d else cs
    let cs := if c.printable then cs.filter fun d => 32 ≤ d.toNat && d.toNat < 127 else cs
    if c.folds then cs.map Char.toUpper else cs
  let order := match c.kind with
    | some 'n' =>
      let (i, p, _) := leadingNumber a
      let (j, q, _) := leadingNumber b
      compareNumbers (i, p) (j, q)
    | some 'h' =>
      let (i, p, s) := leadingNumber a
      let (j, q, t) := leadingNumber b
      let rank (i : Int) (s : List Char) : Int :=
        if i = 0 then 0 else if i < 0 then -(unitRank s : Int) - 1 else unitRank s + 1
      (Ord.compare (rank i s) (rank j t)).then (compareNumbers (i, p) (j, q))
    | some 'M' => Ord.compare (monthOf a) (monthOf b)
    | some 'g' =>
      let (r, x) := generalRank a
      let (s, y) := generalRank b
      (Ord.compare r s).then (compareBinary x y)
    | some 'V' => compareVersions (a.length + b.length + 1) a b
    | _ => compareChars (plain a) (plain b)
  if c.reverses then order.swap else order

/-! ## Section 2: Sorting -/

/-- The letters that say how keys are compared. -/
def comparingLetters : List Char := "bdfgiMhnRrV".toList

/-- Reads a number in a key. -/
def keyNumber (where_ : String) (cs : List Char) : Deed (Nat × List Char) := do
  let ds := cs.takeWhile Char.isDigit
  if ds.isEmpty then
    abort ("invalid number " ++ where_ ++ ": invalid count at start of " ++
      quote (String.ofList cs)) 2
  return (Decimal.valueOf ds, cs.drop ds.length)

/-- Reads a key. -/
def keyOf (spec : String) : Deed (Key × Bool) := do
  let flaw {α : Type} (message : String) : Deed α :=
    abort (message ++ ": invalid field specification " ++ quote spec) 2
  let letters (cs : List Char) : List Char × List Char :=
    (cs.takeWhile comparingLetters.contains, cs.dropWhile comparingLetters.contains)
  let (field, rest) ← keyNumber "at field start" spec.toList
  if field = 0 then flaw "field number is zero"
  let (char, rest) ← match rest with
    | '.' :: more => do
      let (n, rest) ← keyNumber "after '.'" more
      if n = 0 then flaw "character offset is zero"
      pure (n - 1, rest)
    | rest => pure (0, rest)
  let (first, rest) := letters rest
  let key : Key :=
    { firstField := field - 1, firstChar := char
      comparing := first.foldl .add {}, skipsFirst := first.contains 'b' }
  match rest with
  | [] => return (key, !first.isEmpty)
  | ',' :: rest =>
    let (field, rest) ← keyNumber "after ','" rest
    if field = 0 then flaw "field number is zero"
    let (count, rest) ← match rest with
      | '.' :: more => keyNumber "after '.'" more
      | rest => pure (0, rest)
    let (last, rest) := letters rest
    if ¬ rest.isEmpty then flaw "stray character in field spec"
    return ({ key with
      last := some (field - 1, count)
      comparing := last.foldl .add key.comparing
      skipsLast := last.contains 'b' }, !first.isEmpty || !last.isEmpty)
  | _ => flaw "stray character in field spec"

/-- Compares two lines by keys in order. -/
def compareBy (tab : Option Char) (keys : List Key) (a b : List Char) : Ordering :=
  keys.foldl (fun o k => o.then (k.comparing.compare (k.of tab a) (k.of tab b))) .eq

/-- The lines of which no two in a row are the same. -/
def withoutRepeats (isSame : List Char → List Char → Bool) : List (List Char) → List (List Char)
  | a :: b :: rest =>
    if isSame a b then withoutRepeats isSame (a :: rest) else a :: withoutRepeats isSame (b :: rest)
  | rest => rest
termination_by lines => lines.length

/-- Sorts lines. -/
def sort : Deed Nat := do
  let g ← options
    ([{ letter := 'k', name := "key", takes := .value },
      { letter := 't', name := "field-separator", takes := .value },
      { letter := 'o', name := "output", takes := .value },
      { letter := 'S', name := "buffer-size", takes := .value },
      { letter := 'T', name := "temporary-directory", takes := .value },
      { letter := 'b', name := "ignore-leading-blanks" },
      { letter := 'd', name := "dictionary-order" }, { letter := 'f', name := "ignore-case" },
      { letter := 'g', name := "general-numeric-sort" },
      { letter := 'i', name := "ignore-nonprinting" }, { letter := 'M', name := "month-sort" },
      { letter := 'h', name := "human-numeric-sort" }, { letter := 'n', name := "numeric-sort" },
      { letter := 'R', name := "random-sort" }, { letter := 'r', name := "reverse" },
      { letter := 'V', name := "version-sort" }, { letter := 'c' },
      { letter := 'c', name := "check", takes := .maybe },
      { letter := 'm', name := "merge" }, { letter := 's', name := "stable" },
      { letter := 'u', name := "unique" }, { letter := 'z', name := "zero-terminated" }] ++
      flags "C") 2
  let tab ← match g.value? 't' with
    | none => pure none
    | some s => match s.toList with
      | [] => abort "empty tab" 2
      | [c] => pure (some c)
      | ['\\', '0'] => pure (some '\x00')
      | _ => abort ("multi-character tab " ++ quote s) 2
  let general := (g.options.map Prod.fst).filter comparingLetters.contains |>.foldl Comparing.add {}
  let kinds := ((g.options.map Prod.fst).filter "MghnRV".toList.contains).eraseDups
  if 1 < kinds.length then
    let letters := kinds.mergeSort fun a b => a ≤ b
    abort ("options '-" ++ String.ofList letters ++ "' are incompatible") 2
  let keys ← (g.values 'k').mapM fun spec => do
    let (key, hasOwn) ← keyOf spec
    return if hasOwn then key
      else { key with comparing := general, skipsFirst := general.ignoresBlanks
                      skipsLast := general.ignoresBlanks }
  let keys := if keys.isEmpty then
      [({ comparing := general, skipsFirst := general.ignoresBlanks } : Key)] else keys
  let order (a b : List Char) : Ordering := compareBy tab keys a b
  let full (a b : List Char) : Ordering :=
    if g.has 's' ∨ g.has 'u' then order a b
    else (order a b).then (if general.reverses then (compareChars a b).swap else compareChars a b)
  let lineEnd := if g.has 'z' then '\x00' else '\n'
  let names := if g.operands.isEmpty then ["-"] else g.operands
  if (g.has 'c' ∨ g.has 'C') ∧ 1 < names.length then
    let letter := if g.has 'c' then "c" else "C"
    abort ("extra operand " ++ quote ((names[1]?).getD "") ++ " not allowed with -" ++ letter) 2
  let texts ← names.mapM fun name => do
    match ← Tool.charsOf name with
    | .ok cs => return cs
    | .error .isDirectory => abort ("read failed: " ++ name ++ ": Is a directory") 2
    | .error f => abort ("cannot read: " ++ name ++ ": " ++ f.message) 2
  let lines := texts.flatMap fun cs =>
    let parts := splitAt lineEnd cs
    if parts.getLast? == some [] then parts.dropLast else parts
  if g.has 'c' ∨ g.has 'C' then
    let pairs := (lines.zip lines.tail).zip (List.range lines.length)
    let bad := pairs.find? fun ((a, b), _) =>
      if g.has 'u' then order a b != .lt else full a b == .gt
    match bad with
    | none => return 0
    | some ((_, b), i) =>
      if g.has 'c' ∧ g.value? 'c' ≠ some "quiet" ∧ g.value? 'c' ≠ some "silent" then
        complain ((names.head?.getD "-") ++ ":" ++ digits (i + 2) ++ ": disorder: " ++
          String.ofList b)
      return 1
  let sorted := lines.mergeSort fun a b => full a b != .gt
  let sorted := if g.has 'u' then withoutRepeats (fun a b => order a b == .eq) sorted else sorted
  let text := String.ofList (sorted.flatMap (· ++ [lineEnd]))
  match g.value? 'o' with
  | none => put text
  | some name =>
    match ← Work.openFile name { writes := true, makes := true, empties := true } with
    | .ok n =>
      let _ ← Work.writeText n text
      Work.close n
    | .error f => abort ("open failed: " ++ name ++ ": " ++ f.message) 2
  return 0

/-! ## Section 3: Lines that are the same -/

/-- Groups of elements in a row that are the same. -/
def groupRepeats {α : Type} (isSame : α → α → Bool) : List α → List (List α)
  | [] => []
  | a :: rest =>
    match groupRepeats isSame rest with
    | (b :: group) :: more => if isSame a b then (a :: b :: group) :: more else [a] :: (b :: group) :: more
    | more => [a] :: more

/-- Shows lines that are repeated only once, or chooses among them. -/
def uniq : Deed Nat := do
  let g ← options
    [{ letter := 'c', name := "count" }, { letter := 'd', name := "repeated" }, { letter := 'D' },
     { letter := 'D', name := "all-repeated", takes := .maybe },
     { letter := 'f', name := "skip-fields", takes := .value },
     { letter := 's', name := "skip-chars", takes := .value },
     { letter := 'w', name := "check-chars", takes := .value },
     { letter := '\x01', name := "group", takes := .maybe }, { letter := 'i', name := "ignore-case" },
     { letter := 'u', name := "unique" }, { letter := 'z', name := "zero-terminated" }]
  let number (letter : Char) (what : String) : Deed (Option Nat) := do
    match g.value? letter with
    | none => return none
    | some s =>
      if s.isEmpty ∨ ¬ s.toList.all Char.isDigit then abort (s ++ ": invalid number of " ++ what)
      return some (Decimal.valueOf s.toList)
  let fields := (← number 'f' "fields to skip").getD 0
  let chars := (← number 's' "bytes to skip").getD 0
  let width ← number 'w' "bytes to compare"
  if 2 < g.operands.length then misuse ("extra operand " ++ quote ((g.operands[2]?).getD ""))
  let name := g.operands.head?.getD "-"
  let cs ← match ← Tool.charsOf name with
    | .ok cs => pure cs
    | .error f => abort (fileComplaint name f)
  let lineEnd := if g.has 'z' then '\x00' else '\n'
  let parts := splitAt lineEnd cs
  let lines := if parts.getLast? == some [] then parts.dropLast else parts
  let key (l : List Char) : List Char :=
    let l := (behindFields none fields l).drop chars
    let l := match width with
      | some n => l.take n
      | none => l
    if g.has 'i' then l.map Char.toLower else l
  let groups := groupRepeats (fun a b => key a == key b) lines
  let shown := groups.flatMap fun group =>
    let n := group.length
    if g.has 'D' then if 1 < n then group else []
    else if g.has '\x01' then group
    else if (g.has 'd' ∧ n = 1) ∨ (g.has 'u' ∧ 1 < n) then []
    else
      let line := group.head?.getD []
      [if g.has 'c' then (rightAligned 7 (digits n) ++ " ").toList ++ line else line]
  let text :=
    if g.has '\x01' then
      joinWith [lineEnd] (groups.map fun group => group.flatMap (· ++ [lineEnd]))
    else shown.flatMap (· ++ [lineEnd])
  match g.operands[1]? with
  | none => put (String.ofList text)
  | some name =>
    match ← Work.openFile name { writes := true, makes := true, empties := true } with
    | .ok n =>
      let _ ← Work.writeText n (String.ofList text)
      Work.close n
    | .error f => abort (fileComplaint name f)
  return 0

/-- The lines of two sorted texts, each with the column in which it is shown. The number
    bounds the lines. -/
def merged : Nat → List (List Char) → List (List Char) → List (Nat × List Char)
  | 0, _, _ => []
  | _, [], bs => bs.map (2, ·)
  | _, as, [] => as.map (1, ·)
  | fuel + 1, a :: as, b :: bs =>
    match compareChars a b with
    | .eq => (3, a) :: merged fuel as bs
    | .lt => (1, a) :: merged fuel as (b :: bs)
    | .gt => (2, b) :: merged fuel (a :: as) bs

/-- Compares two sorted files line by line. -/
def comm : Deed Nat := do
  let g ← options (flags "123" ++ [{ letter := '\x01', name := "output-delimiter", takes := .value }])
  match g.operands with
  | [] => misuse "missing operand"
  | [a] => misuse ("missing operand after " ++ quote a)
  | [a, b] =>
    let read_ (name : String) : Deed (List (List Char)) := do
      match ← Tool.charsOf name with
      | .ok cs => return linesOf cs
      | .error f => abort (fileComplaint name f)
    let (as, bs) := (← read_ a, ← read_ b)
    let tab := (g.value? '\x01').getD "\t"
    let columns := [(1, '1'), (2, '2'), (3, '3')].filter fun (_, c) => !g.has c
    let text := (merged (as.length + bs.length + 1) as bs).filterMap fun (column, line) =>
      (columns.findIdx? fun (n, _) => n == column).map fun i =>
        String.join (List.replicate i tab) ++ String.ofList line ++ "\n"
    put (String.join text)
    return 0
  | _ => misuse ("extra operand " ++ quote ((g.operands[2]?).getD ""))

end SimSweep.Tool
