import SimSweep.Shell.Pattern
import SimSweep.Tool.Lines

/-! # Translating characters

    Characters of one set are replaced by those of another one, deleted, or written only
    once where they stand in a row.
-/

namespace SimSweep.Tool.Translate

open Kernel Tool

/-- A part of a set as it is written. -/
inductive Item where
  | range (first last : Char)
  | class (name : String)
  /-- A character again and again; zero stands for as often as is needed. -/
  | again (c : Char) (count : Nat)

/-- The characters of a text with escapes, each with whether it was escaped. -/
def unescape : Nat → List Char → List (Char × Bool)
  | 0, _ => []
  | _, [] => []
  | fuel + 1, '\\' :: c :: rest =>
    let octal := (c :: rest).takeWhile fun d => decide ('0' ≤ d ∧ d ≤ '7')
    let ds := octal.take 3
    let ds := if 255 < Nat.ofDigitChars 8 ds 0 then ds.take 2 else ds
    if ds.isEmpty then
      let d := match c with
        | 'a' => '\x07'
        | 'b' => '\x08'
        | 'f' => '\x0c'
        | 'n' => '\n'
        | 'r' => '\r'
        | 't' => '\t'
        | 'v' => '\x0b'
        | c => c
      (d, true) :: unescape fuel rest
    else
      (Char.ofNat (Nat.ofDigitChars 8 ds 0), true) :: unescape fuel ((c :: rest).drop ds.length)
  | fuel + 1, c :: rest => (c, false) :: unescape fuel rest

/-- A character as it is shown in a complaint. -/
def shown (c : Char) : String :=
  if 32 ≤ c.toNat ∧ c.toNat < 127 then String.singleton c
  else
    let octal := Nat.toDigits 8 c.toNat
    "\\" ++ String.ofList (List.replicate (3 - octal.length) '0' ++ octal)

/-- The parts of a set. The number bounds the characters. -/
def itemsOf : Nat → List (Char × Bool) → Deed (List Item)
  | 0, _ => return []
  | _, [] => return []
  | fuel + 1, ('[', false) :: (mark, false) :: rest => do
    if mark = ':' ∨ mark = '=' then
      let name := (rest.takeWhile fun (c, q) => !(c == mark && !q)).map Prod.fst
      match rest.drop name.length with
      | _ :: (']', false) :: after =>
        let name := String.ofList name
        if mark = '=' then
          match name.toList with
          | [c] => return .range c c :: (← itemsOf fuel after)
          | _ => abort (name ++ ": equivalence class operand must be a single character")
        if ¬ ["alnum", "alpha", "blank", "cntrl", "digit", "graph", "lower", "print", "punct",
            "space", "upper", "xdigit"].contains name then
          abort ("invalid character class " ++ quote name)
        return .class name :: (← itemsOf fuel after)
      | _ => single fuel '[' ((mark, false) :: rest)
    else again fuel mark ((mark, false) :: rest)
  | fuel + 1, ('[', false) :: (c, true) :: rest => again fuel c ((c, true) :: rest)
  | fuel + 1, (c, _) :: rest => single fuel c rest
where
  /-- Reads a character that is repeated, if it is one. -/
  again (fuel : Nat) (c : Char) (rest : List (Char × Bool)) : Deed (List Item) := do
    match rest with
    | _ :: ('*', false) :: more =>
      let ds := (more.takeWhile fun (d, _) => d.isDigit).map Prod.fst
      match more.drop ds.length with
      | (']', false) :: after =>
        let base := if ds.head? == some '0' then 8 else 10
        return .again c (Nat.ofDigitChars base ds 0) :: (← itemsOf fuel after)
      | _ => single fuel '[' rest
    | _ => single fuel '[' rest
  /-- Reads a character, or a range that starts with it. -/
  single (fuel : Nat) (c : Char) (rest : List (Char × Bool)) : Deed (List Item) := do
    match rest with
    | ('-', false) :: (d, _) :: after =>
      if d.toNat < c.toNat then
        abort ("range-endpoints of '" ++ shown c ++ "-" ++ shown d ++
          "' are in reverse collating sequence order")
      return .range c d :: (← itemsOf fuel after)
    | rest => return .range c c :: (← itemsOf fuel rest)

/-- All characters. -/
def alphabet : List Char := (List.range 256).map Char.ofNat

/-- The characters of a part of a set; one that is repeated as often as needed is given a
    count. -/
def Item.chars (needed : Nat) : Item → List Char
  | .range a b => (List.range (b.toNat + 1 - a.toNat)).map fun n => Char.ofNat (a.toNat + n)
  | .class name => alphabet.filter (Shell.isOfClass name)
  | .again c 0 => List.replicate needed c
  | .again c n => List.replicate n c

/-- The characters of a set that is to have a size. -/
def charsOf (items : List Item) (size : Nat) : List Char :=
  let fixed := (items.map fun
    | .again _ 0 => 0
    | item => (item.chars 0).length).foldl (· + ·) 0
  items.flatMap (·.chars (size - fixed))

/-- Whether a part of a set stands for as many characters as are needed. -/
def Item.isOpen : Item → Bool
  | .again _ 0 => true
  | _ => false

/-- Whether a part of a set is a class of letters. -/
def Item.isCase : Item → Bool
  | .class name => name == "upper" || name == "lower"
  | _ => false

/-- Writes every character of a set only once where it stands in a row. -/
def squeeze (set_ : List Char) : Option Char → List Char → List Char
  | _, [] => []
  | last, c :: rest =>
    if last = some c ∧ set_.contains c then squeeze set_ last rest
    else c :: squeeze set_ (some c) rest

/-- The pairs of characters of which the first is replaced by the second. -/
def pairsOf (first second : List Item) (complements truncates : Bool) :
    Deed (List (Char × Char)) := do
  let from_ := charsOf first 0
  let from_ := if complements then alphabet.filter fun c => !from_.contains c else from_
  let to_ := charsOf second from_.length
  if to_.isEmpty ∧ ¬ truncates then
    if ¬ from_.isEmpty then abort "when not truncating set1, string2 must be non-empty"
    return []
  let last := to_.getLast?.getD 'x'
  let to_ := if truncates then to_
    else to_ ++ List.replicate (from_.length - to_.length) last
  return from_.zip to_

/-- Checks the classes of the second set, which may only change the case of letters. -/
def checkClasses (first second : List Item) : Deed Unit := do
  let isClass : Item → Bool
    | .class _ => true
    | _ => false
  if second.any fun i => isClass i && !i.isCase then
    abort ("when translating, the only character classes that may appear in\n" ++
      "string2 are 'upper' and 'lower'")
  let place (items : List Item) (i : Nat) : Nat := (charsOf (items.take i) 0).length
  let starts := ((List.range first.length).filter fun i => first[i]?.any (·.isCase)).map
    (place first)
  let isAligned := (List.range second.length).all fun i =>
    !(second[i]?.any (·.isCase)) || starts.contains (place second i)
  if ¬ isAligned then abort "misaligned [:upper:] and/or [:lower:] construct"

/-- Copies the input in pieces, each of which is changed with a state. The number bounds
    the pieces. -/
def copyWith {σ : Type} (f : σ → List Char → List Char × σ) : Nat → σ → Deed Unit
  | 0, _ => pure ()
  | fuel + 1, s => do
    match ← Work.read 0 65536 with
    | .error .interrupted => copyWith f fuel s
    | .error g => abort ("read error: " ++ g.message)
    | .ok bytes =>
      if bytes.isEmpty then pure ()
      else
        let (cs, s) := f s (Octets.ofBytes bytes).toList
        if ¬ cs.isEmpty then put (String.ofList cs)
        copyWith f fuel s

/-- Translates the characters of the input. -/
def tool : Deed Nat := do
  let g ← options
    [{ letter := 'c', name := "complement" }, { letter := 'C' }, { letter := 'd', name := "delete" },
     { letter := 's', name := "squeeze-repeats" }, { letter := 't', name := "truncate-set1" }] 1 true
  let complements := g.has 'c' || g.has 'C'
  let needsTwo := g.has 'd' == g.has 's'
  let most := if g.has 'd' ∧ ¬ g.has 's' then 1 else 2
  match g.operands with
  | [] => misuse "missing operand"
  | [s] =>
    if needsTwo then
      complain ("missing operand after " ++ quote s)
      say (if g.has 'd' then "Two strings must be given when both deleting and squeezing repeats.\n"
        else "Two strings must be given when translating.\n")
      hint
  | args =>
    if most < args.length then
      complain ("extra operand " ++ quote ((args[most]?).getD ""))
      if args.length = 2 then
        say "Only one string may be given when deleting without squeezing repeats.\n"
      hint
  for s in g.operands do
    let slashes := (s.toList.reverse.takeWhile (· = '\\')).length
    if slashes % 2 = 1 then
      complain "warning: an unescaped backslash at end of string is not portable"
  let sets ← g.operands.mapM fun s => itemsOf (s.length + 1) (unescape (s.length + 1) s.toList)
  let first := sets.head?.getD []
  let second := (sets[1]?).getD []
  let last := sets.getLast?.getD []
  let members := charsOf first 0
  let isIn (c : Char) : Bool := members.contains c != complements
  let squeezed :=
    if sets.length = 2 then charsOf last 0 ++ (last.filter Item.isOpen).flatMap (·.chars 1)
    else alphabet.filter isIn
  let start : Option Char := none
  if first.any Item.isOpen then
    abort "the [c*] repeat construct may not appear in string1"
  let finish (f : List Char → List Char) : Deed Unit :=
    copyWith (fun before cs =>
      let cs := f cs
      let cs' := if g.has 's' then squeeze squeezed before cs else cs
      (cs', (cs'.getLast?).or before)) pieceLimit start
  if g.has 'd' then finish fun cs => cs.filter fun c => !isIn c
  else if sets.length = 2 then
    checkClasses first second
    let pairs ← pairsOf first second complements (g.has 't')
    let table := (alphabet.map fun c =>
      ((pairs.reverse.find? fun (a, _) => a == c).map Prod.snd).getD c).toArray
    finish fun cs => cs.map fun c => (table[c.toNat]?).getD c
  else finish id
  return 0

end SimSweep.Tool.Translate
