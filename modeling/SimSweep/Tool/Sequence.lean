import SimSweep.Shell.Format
import SimSweep.Tool.Options

/-! # Sequences of numbers

    Numbers from one to another in equal steps. They are counted exactly, as whole
    multiples of the least place that is written.
-/

namespace SimSweep.Tool

open Kernel Shell

/-- A number as it is written: a whole number of units of a decimal place. -/
structure Placed where
  /-- The number in units of its last place. -/
  units : Int
  /-- The number of decimal places. -/
  places : Nat
  /-- The length of what is written. -/
  width : Nat
  /-- Whether there is no end to it. -/
  isEndless : Bool := false

/-- The number that a text denotes. -/
def Placed.read? (s : String) : Option Placed :=
  let body := s.toList.dropWhile isSpace
  let (negative, cs) := Decimal.sign body
  let name := String.ofList (cs.map Char.toLower)
  let signed (n : Nat) : Int := if negative then -n else n
  if name = "inf" ∨ name = "infinity" then
    some { units := if negative then -1 else 1, places := 0, width := 0, isEndless := true }
  else match Numeral.leading? true cs, cs with
    | some (i, []), '0' :: x :: _ =>
      if x = 'x' ∨ x = 'X' then some { units := signed i.natAbs, places := 0, width := body.length }
      else whole negative cs body
    | _, _ => whole negative cs body
where
  /-- The number that decimal digits denote. -/
  whole (negative : Bool) (cs body : List Char) : Option Placed :=
    (Decimal.read? cs).map fun d =>
      let places := (-d.exponent).toNat
      let n := d.coefficient * Nat.pow 10 d.exponent.toNat
      let mantissa := body.takeWhile fun c => c != 'e' && c != 'E'
      let digits := mantissa.filter Char.isDigit
      let width := if mantissa.length = body.length then
          body.length - (if body.head? == some '+' then 1 else 0) +
            (if mantissa.getLast? == some '.' then 0 else if cs.head? == some '.' then 1 else 0) -
            (if mantissa.getLast? == some '.' then 1 else 0)
        else digits.length + d.exponent.toNat + (if negative then 1 else 0)
      { units := if negative then -n else n, places, width }

/-- A number in units of a finer place. -/
def Placed.at (p : Placed) (places : Nat) : Int := p.units * Nat.pow 10 (places - p.places)

/-- The text of a number of units of a place. -/
def placedText (places : Nat) (isNegative : Bool) (n : Nat) : String :=
  let ds := Decimal.digitsOf n
  let ds := List.replicate (places + 1 - ds.length) '0' ++ ds
  let whole := ds.take (ds.length - places)
  let part := ds.drop (ds.length - places)
  String.ofList ((if isNegative then ['-'] else []) ++ whole ++
    (if places = 0 then [] else '.' :: part))

/-- The text of a number filled up with zeros. -/
def zeroFilled (width : Nat) (s : String) : String :=
  match s.toList with
  | '-' :: cs => String.ofList ('-' :: List.replicate (width - s.length) '0' ++ cs)
  | cs => String.ofList (List.replicate (width - s.length) '0' ++ cs)

/-- A format for numbers: what stands in front of the number, its layout, and what stands
    behind. -/
structure NumberFormat where
  before : List Char
  layout : Format.Layout
  conversion : Char
  after : List Char

/-- A text in which a doubled percent sign stands for one, up to a single one. -/
def plainStart : List Char → List Char × List Char
  | [] => ([], [])
  | '%' :: '%' :: rest =>
    let (cs, after) := plainStart rest
    ('%' :: cs, after)
  | '%' :: rest => ([], '%' :: rest)
  | c :: rest =>
    let (cs, after) := plainStart rest
    (c :: cs, after)

/-- Reads a format for numbers. -/
def NumberFormat.read (s : String) : Deed NumberFormat := do
  let title := "format " ++ quote s
  let (before, rest) := plainStart s.toList
  match rest with
  | [] => abort (title ++ " has no % directive")
  | _ :: rest =>
    let flags := rest.takeWhile fun c => "-+#0 '".toList.contains c
    let rest := rest.drop flags.length
    let width := rest.takeWhile Char.isDigit
    let rest := rest.drop width.length
    let (precision, rest) := match rest with
      | '.' :: more => (some (more.takeWhile Char.isDigit), more.dropWhile Char.isDigit)
      | more => (none, more)
    let rest := if rest.head? == some 'L' then rest.drop 1 else rest
    match rest with
    | [] => abort (title ++ " ends in %")
    | conversion :: rest =>
      if ¬ "aefgAEFG".toList.contains conversion then
        abort (title ++ " has unknown %" ++ String.singleton conversion ++ " directive")
      let (after, more) := plainStart rest
      if ¬ more.isEmpty then abort (title ++ " has too many % directives")
      let layout : Format.Layout :=
        { flags
          width := if width.isEmpty then none else some (Decimal.valueOf width)
          precision := precision.map Decimal.valueOf }
      return { before, layout, conversion, after }

/-- The text of a number of units of a place in a format. -/
def NumberFormat.text (f : NumberFormat) (places : Nat) (isNegative : Bool) (n : Nat) : String :=
  let x := Binary64.ofRatio isNegative n (Nat.pow 10 places)
  String.ofList (f.before ++ f.layout.fraction f.conversion { value := x } ++ f.after)

/-- Writes numbers in pieces. The first number bounds the pieces. -/
def writeNumbers (text : Int → String) (separator : String) (step : Int) (last : Option Int) :
    Nat → Bool → Int → Deed Unit
  | 0, _, _ => pure ()
  | fuel + 1, isFirst, i => do
    let inRange (k : Int) : Bool := match last with
      | none => true
      | some last => if 0 ≤ step then decide (k ≤ last) else decide (last ≤ k)
    let block := ((List.range 500).map fun (n : Nat) => i + step * n).filter inRange
    let s := separator.intercalate (block.map text)
    if block.isEmpty then
      if ¬ isFirst then put "\n"
    else
      put (if isFirst then s else separator ++ s)
      writeNumbers text separator step last fuel false (i + step * 500)

/-- Whether a text is a negative number, which is then no option. -/
def isNegativeNumber (s : String) : Bool :=
  match s.toList with
  | '-' :: c :: _ => c.isDigit || c == '.'
  | _ => false

/-- Options in front of numbers. -/
def seqOptions (args : List String) : Deed Given := do
  let choices : List Choice :=
    [{ letter := 'f', name := "format", takes := .value },
     { letter := 's', name := "separator", takes := .value },
     { letter := 'w', name := "equal-width" }]
  let isValue (i : Nat) : Bool :=
    i != 0 && ["-s", "-f", "--separator", "--format"].contains ((args[i - 1]?).getD "")
  let start := (List.range args.length).find? fun i =>
    let a := (args[i]?).getD ""
    !isValue i && (!a.startsWith "-" || isNegativeNumber a)
  let n := start.getD args.length
  let g ← takeOptions choices (args.take n)
  return { g with operands := g.operands ++ args.drop n }

/-- Writes numbers from one to another in equal steps. -/
def seq : Deed Nat := do
  let g ← seqOptions (← read).args
  let numbers ← g.operands.mapM fun s => do
    let isNan := (s.toList.filter fun c => c != '-' && c != '+').map Char.toLower == "nan".toList
    if isNan then misuse ("invalid 'not-a-number' argument: " ++ quote s)
    match Placed.read? s with
    | some p => return p
    | none => misuse ("invalid floating point argument: " ++ quote s)
  let one : Placed := { units := 1, places := 0, width := 1 }
  let (first, step, last) ← match numbers with
    | [] => misuse "missing operand"
    | [last] => pure (one, one, last)
    | [first, last] => pure (first, one, last)
    | [first, step, last] => pure (first, step, last)
    | _ => misuse ("extra operand " ++ quote ((g.operands[3]?).getD ""))
  let format ← (g.value? 'f').mapM NumberFormat.read
  if format.isSome ∧ g.has 'w' then
    misuse "format string may not be specified when printing equal width strings"
  if step.units = 0 then
    misuse ("invalid Zero increment value: " ++ quote ((g.operands[1]?).getD ""))
  let places := max first.places (max step.places last.places)
  let shownPlaces := max first.places step.places
  let pointed (p : Placed) : Nat :=
    let width := p.width - (if p.places = 0 then 0 else p.places + 1)
    width + (if shownPlaces = 0 then 0 else shownPlaces + 1)
  let width := if g.has 'w' then max (pointed first) (pointed last) else 0
  let drop := Nat.pow 10 (places - shownPlaces)
  let text (i : Int) : String := match format with
    | some f => f.text places (decide (i < 0)) i.natAbs
    | none => zeroFilled width (placedText shownPlaces (decide (i < 0)) (i.natAbs / drop))
  let end_ := if last.isEndless ∧ 0 < last.units then none else some (last.at places)
  writeNumbers text ((g.value? 's').getD "\n") (step.at places) end_ pieceLimit true (first.at places)
  return 0
where
  /-- The most pieces in which numbers are written. -/
  pieceLimit : Nat := 1000000000

end SimSweep.Tool
