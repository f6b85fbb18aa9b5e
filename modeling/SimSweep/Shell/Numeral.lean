import SimSweep.Number.Reading

/-! # Numerals of a shell

    Whole numbers as they stand in arguments and expressions. Blanks may precede a
    numeral, and a sign. Where bases are understood, a numeral is in base sixteen
    behind `0x`, and in base eight behind another zero.
-/

namespace SimSweep.Shell

/-- Whether a character is white space. -/
def isSpace (c : Char) : Bool := c == ' ' || decide (0x09 ≤ c.toNat ∧ c.toNat ≤ 0x0D)

namespace Numeral

/-- The value of a letter or a digit as a digit. -/
def digitValue (c : Char) : Nat :=
  if c.isDigit then c.toNat - '0'.toNat else c.toLower.toNat - 'a'.toNat + 10

/-- Whether a character is a digit in a base. -/
def isDigitIn (base : Nat) (c : Char) : Bool := c.isAlphanum && decide (digitValue c < base)

/-- The value of digits in a base. -/
def valueIn (base : Nat) (digits : List Char) : Nat :=
  digits.foldl (fun n c => n * base + digitValue c) 0

/-- The base of a numeral without a sign, and its digits with what follows them. -/
def baseOf (understandsBases : Bool) (cs : List Char) : Nat × List Char :=
  match understandsBases, cs with
  | true, '0' :: x :: d :: rest =>
    if (x == 'x' || x == 'X') && isDigitIn 16 d then (16, d :: rest) else (8, cs)
  | true, '0' :: _ => (8, cs)
  | _, _ => (10, cs)

/-- The number that the longest numeral at the start of a text denotes, and what
    follows it. -/
def leading? (understandsBases : Bool) (cs : List Char) : Option (Int × List Char) :=
  let (negative, rest) := Decimal.sign (cs.dropWhile isSpace)
  let (base, body) := baseOf understandsBases rest
  let digits := body.takeWhile (isDigitIn base)
  if digits.isEmpty then none
  else
    let n : Int := valueIn base digits
    some (if negative then -n else n, body.drop digits.length)

/-- Whether a number fits 64 bits with a sign. -/
def fits (i : Int) : Bool := decide (-Nat.pow 2 63 ≤ i ∧ i < Nat.pow 2 63)

/-- The number that a text is, with white space around it or not. -/
def integer? (s : String) : Option Int := do
  let (i, rest) ← leading? false s.toList
  if fits i ∧ rest.all isSpace then some i else none

/-- The number in the text of a variable, where nothing is zero. -/
def ofValue? (s : String) : Option Int :=
  match leading? true s.toList with
  | none => if s.toList.all isSpace then some 0 else none
  | some (i, rest) => if fits i ∧ rest.all isSpace then some i else none

/-- The number nearest to another in 64 bits with a sign. -/
def clamp (i : Int) : Int := max (-Nat.pow 2 63) (min i (Nat.pow 2 63 - 1))

end Numeral

end SimSweep.Shell
