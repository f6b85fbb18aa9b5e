import SimSweep.Number.Decimal

/-! # Reading numbers

    A number is written as an optional sign and then either `inf`, `infinity` or
    `nan` in any case, or decimal digits with an optional point and an optional
    exponent. At least one digit stands before the exponent, on either side of
    the point. The result is the nearest binary64 number.
-/

namespace SimSweep

namespace Decimal

/-- The value of a run of decimal digits. -/
def valueOf (digits : List Char) : Nat := Nat.ofDigitChars 10 digits 0

/-- The leading digits of a text and what follows them. -/
def spanDigits (cs : List Char) : List Char × List Char :=
  (cs.takeWhile Char.isDigit, cs.dropWhile Char.isDigit)

/-- An optional sign: whether it is a minus, and what follows. -/
def sign (cs : List Char) : Bool × List Char :=
  match cs with
  | '-' :: rest => (true, rest)
  | '+' :: rest => (false, rest)
  | _ => (false, cs)

/-- The exponent at the end of a numeral; none at all counts as zero. -/
def exponent? (cs : List Char) : Option Int :=
  match cs with
  | [] => some 0
  | c :: rest =>
    if c = 'e' ∨ c = 'E' then
      let (negative, rest) := sign rest
      let (digits, rest) := spanDigits rest
      if digits.isEmpty ∨ ¬ rest.isEmpty then none
      else some (if negative then -(valueOf digits : Int) else valueOf digits)
    else none

/-- An unsigned decimal numeral. -/
def read? (cs : List Char) : Option Decimal :=
  let (whole, rest) := spanDigits cs
  let (fraction, rest) := match rest with
    | '.' :: rest => spanDigits rest
    | _ => ([], rest)
  if whole.isEmpty ∧ fraction.isEmpty then none
  else do
    let e ← exponent? rest
    some ⟨valueOf (whole ++ fraction), e - fraction.length⟩

end Decimal

namespace Binary64

/-- The number that a text denotes, if any. -/
def read? (cs : List Char) : Option Binary64 :=
  let (negative, rest) := Decimal.sign cs
  let name := String.ofList (rest.map Char.toLower)
  if name = "nan" then some .nan
  else if name = "inf" ∨ name = "infinity" then some (.infinite negative)
  else (Decimal.read? rest).map (Decimal.toBinary64 negative)

/-- The number that a text denotes, if any. -/
def ofText? (s : String) : Option Binary64 := read? s.toList

end Binary64

end SimSweep
