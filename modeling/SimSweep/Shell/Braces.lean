import SimSweep.Number.Reading
import SimSweep.Shell.Tree

/-! # Braces

    A word with alternatives between braces stands for several words: one for each of
    them, with what surrounds the braces around it. Two ends with dots between them
    stand for all that is between the ends.
-/

namespace SimSweep.Shell.Braces

/-- A character of a word that is not quoted, or any other part of it. -/
inductive Atom where
  | char (c : Char)
  | part (p : Part)

/-- The atoms of a word. -/
def atoms (term : Term) : List Atom :=
  term.flatMap fun
    | .text cs false => cs.map .char
    | part => [.part part]

/-- Puts an atom in front of a word. -/
def Atom.add : Atom → Term → Term
  | .char c, .text cs false :: rest => .text (c :: cs) false :: rest
  | .char c, rest => .text [c] false :: rest
  | .part p, rest => p :: rest

/-- The word that atoms make. -/
def term (row : List Atom) : Term := row.foldr Atom.add []

/-- The alternatives up to the closing brace, and what stands behind it. The depth of
    open braces is given, and the present alternative backwards. -/
def alternatives? : Nat → List Atom → List Atom → Option (List (List Atom) × List Atom)
  | _, _, [] => none
  | depth, row, .char '\\' :: a :: rest => alternatives? depth (a :: .char '\\' :: row) rest
  | depth, row, .char c :: rest =>
    if c = '\x7d' ∧ depth = 0 then some ([row.reverse], rest)
    else if c = ',' ∧ depth = 0 then
      (alternatives? 0 [] rest).map fun (others, after) => (row.reverse :: others, after)
    else
      let depth := if c = '\x7b' then depth + 1 else if c = '\x7d' then depth - 1 else depth
      alternatives? depth (.char c :: row) rest
  | depth, row, a :: rest => alternatives? depth (a :: row) rest

/-- The characters of atoms, if nothing else is among them. -/
def chars? : List Atom → Option (List Char)
  | [] => some []
  | .char c :: rest => (chars? rest).map (c :: ·)
  | .part _ :: _ => none

/-- The texts between dots in pairs. -/
def dotted : List Char → List (List Char)
  | [] => [[]]
  | '.' :: '.' :: rest => [] :: dotted rest
  | c :: rest =>
    match dotted rest with
    | row :: rows => (c :: row) :: rows
    | [] => [[c]]

/-- The whole number of a text. -/
def number? (cs : List Char) : Option Int :=
  let (isNegative, digits) := Decimal.sign cs
  if digits.isEmpty ∨ ¬ digits.all Char.isDigit then none
  else
    let n : Int := Decimal.valueOf digits
    some (if isNegative then -n else n)

/-- The numbers between two ends in steps of some length. -/
def between (first last : Int) (step : Nat) : List Int :=
  let step := max step 1
  let count := (last - first).natAbs / step + 1
  (List.range count).map fun i =>
    if first ≤ last then first + (i * step : Nat) else first - (i * step : Nat)

/-- A number with so many characters at least. -/
def padded (width : Nat) (n : Int) : List Char :=
  let digits := Decimal.digitsOf n.natAbs
  let sign : List Char := if n < 0 then ['-'] else []
  sign ++ List.replicate (width - sign.length - digits.length) '0' ++ digits

/-- Whether a numeral is filled up with zeros. -/
def isPadded (cs : List Char) : Bool :=
  match (Decimal.sign cs).2 with
  | '0' :: _ :: _ => true
  | _ => false

/-- What the ends of a row with dots between them stand for. -/
def sequence? (cs : List Char) : Option (List (List Char)) :=
  let run (a b : List Char) (step : Int) : Option (List (List Char)) :=
    match number? a, number? b with
    | some m, some n =>
      let width := if isPadded a ∨ isPadded b then max a.length b.length else 0
      some ((between m n step.natAbs).map (padded width))
    | _, _ =>
      match a, b with
      | [c], [d] =>
        if c.isAlpha ∧ d.isAlpha then
          some ((between c.toNat d.toNat step.natAbs).map fun i => [Char.ofNat i.toNat])
        else none
      | _, _ => none
  match dotted cs with
  | [a, b] => run a b 1
  | [a, b, c] => (number? c).bind (run a b)
  | _ => none

/-- The rows that a row stands for. The number bounds how deep braces are nested, and how
    many follow each other. -/
def rows : Nat → List Atom → List (List Atom)
  | 0, row => [row]
  | _, [] => [[]]
  | fuel + 1, .char '\x7b' :: rest =>
    let plain : List (List Atom) := (rows fuel rest).map (.char '\x7b' :: ·)
    match alternatives? 0 [] rest with
    | some ([only], after) =>
      match (chars? only).bind sequence? with
      | some texts =>
        let tails := rows fuel after
        texts.flatMap fun cs => tails.map (cs.map Atom.char ++ ·)
      | none => plain
    | some (others, after) =>
      let tails := rows fuel after
      others.flatMap fun row => (rows fuel row).flatMap fun head => tails.map (head ++ ·)
    | none => plain
  | fuel + 1, a :: rest => (rows fuel rest).map (a :: ·)

/-- The words that a word stands for. -/
def expand (word : Term) : List Term :=
  let row := atoms word
  if row.any (fun | .char c => c == '\x7b' | .part _ => false) then
    (rows (row.length + 1) row).map term
  else [word]

end SimSweep.Shell.Braces
