import SimSweep.Json.Value
import SimSweep.Json.Fault
import SimSweep.Number.Reading

/-! # Reading JSON numbers

    A numeral without a point or an exponent is a whole number if it fits 64
    bits. Any other numeral is a binary64 number: as many of its leading digits
    as fit 64 bits are rounded to a magnitude, which is then multiplied or
    divided by a power of ten, rounding again. A result beyond the finite
    numbers is out of range.
-/

namespace SimSweep.Json

/-! ## Section 1: The value of a numeral -/

/-- Takes digits into a value for as long as it stays within a limit; the digits
    that are left are returned. -/
def absorb (limit n : Nat) : List Char → Nat × List Char
  | [] => (n, [])
  | c :: cs =>
    let m := 10 * n + (c.toNat - '0'.toNat)
    if limit < m then (n, c :: cs) else absorb limit m cs

/-- The largest whole number of 64 bits. -/
def wordLimit : Nat := Nat.pow 2 64 - 1

/-- The largest exponent that is read digit by digit. -/
def exponentLimit : Nat := Nat.pow 2 31 - 1

/-- The greatest power of ten that is applied in one step. -/
def powerLimit : Nat := 308

/-- The rank of a power of ten. -/
def powerRank (k : Nat) : Nat := Binary64.rankOfRatio (Nat.pow 10 k) 1

/-- A magnitude divided by a power of ten, in steps of at most `powerLimit`. -/
def divideByPower (rank k : Nat) : Nat :=
  if k ≤ powerLimit then Binary64.rankOfQuotient rank (powerRank k)
  else if rank = 0 then 0
  else divideByPower (Binary64.rankOfQuotient rank (powerRank powerLimit)) (k - powerLimit)
termination_by k
decreasing_by simp_all [powerLimit]; omega

/-- The rank of `significand * 10 ^ exponent`, unless it is out of range. -/
def scaledRank? (significand : Nat) (exponent : Int) : Option Nat :=
  let rank := Binary64.rankOfRatio significand 1
  match exponent with
  | .ofNat e =>
    if e ≤ powerLimit then
      let product := Binary64.rankOfProduct rank (powerRank e)
      if product < rankBound then some product else none
    else if rank = 0 then some 0
    else none
  | .negSucc e => some (divideByPower rank (e + 1))

/-- The number of a numeral without a point or an exponent, if it fits 64 bits.
    Negative zero is not a whole number. -/
def wholeNumber (negative : Bool) (n : Nat) : Number :=
  if ¬ negative then .natural n
  else if n = 0 ∨ Nat.pow 2 63 < n then .float (Binary64.ofRank true (Binary64.rankOfRatio n 1))
  else .negative n

/-! ## Section 2: The text of a numeral -/

/-- An exponent: its value, or the digits behind the one with which it became
    too large. -/
structure Exponent where
  negative : Bool
  value : Nat
  excess : Option (List Char)

/-- A numeral after its sign. -/
structure Numeral where
  whole : List Char
  fraction : Option (List Char)
  exponent : Option Exponent

/-- Reads the digits before the point; a leading zero stands alone. -/
def readWhole (cs : List Char) : Except Fault (List Char × List Char) :=
  match cs with
  | [] => .error (.here .endInNumber cs)
  | '0' :: rest =>
    if (rest.head?.any Char.isDigit) then .error (.ahead .badNumber rest) else .ok (['0'], rest)
  | c :: _ =>
    if c.isDigit then .ok (Decimal.spanDigits cs) else .error (.ahead .badNumber cs)

/-- Reads a point and the digits behind it, if there is one. -/
def readFraction (cs : List Char) : Except Fault (Option (List Char) × List Char) :=
  match cs with
  | '.' :: rest =>
    let (digits, rest) := Decimal.spanDigits rest
    if digits.isEmpty then
      .error (.ahead (if rest.isEmpty then .endInNumber else .badNumber) rest)
    else .ok (some digits, rest)
  | _ => .ok (none, cs)

/-- Reads an exponent, if there is one. -/
def readExponent (cs : List Char) : Except Fault (Option Exponent × List Char) :=
  match cs with
  | [] => .ok (none, cs)
  | c :: rest =>
    if c = 'e' ∨ c = 'E' then
      let (negative, rest) := Decimal.sign rest
      let (digits, rest) := Decimal.spanDigits rest
      if digits.isEmpty then
        .error (.ahead (if rest.isEmpty then .endInNumber else .badNumber) rest)
      else
        let (value, left) := absorb exponentLimit 0 digits
        let excess := if left.isEmpty then none else some (left.drop 1 ++ rest)
        .ok (some ⟨negative, value, excess⟩, rest)
    else .ok (none, cs)

/-- The number of a numeral that is followed by `rest`. -/
def Numeral.number (negative : Bool) (n : Numeral) (rest : List Char) : Except Fault Number :=
  let (significand, leftWhole) := absorb wordLimit 0 n.whole
  match n.fraction, n.exponent, leftWhole with
  | none, none, [] => .ok (wholeNumber negative significand)
  | fraction, exponent, leftWhole =>
    let digits := fraction.getD []
    let (significand, left) := absorb wordLimit significand digits
    let shift : Int := (leftWhole.length : Int) - (digits.length - left.length : Nat)
    let finish (e : Int) : Except Fault Number :=
      match scaledRank? significand e with
      | some rank => .ok (.float (Binary64.ofRank negative rank))
      | none => .error (.here .numberOutOfRange rest)
    match exponent with
    | none => finish shift
    | some ⟨minus, value, none⟩ => finish (if minus then shift - value else shift + value)
    | some ⟨minus, _, some behind⟩ =>
      if significand ≠ 0 ∧ ¬ minus then .error (.here .numberOutOfRange behind)
      else .ok (.float (Binary64.zero negative))

/-- Reads a numeral after its sign. A number out of range is still a numeral: the
    fault is kept in its place. -/
def readNumber (negative : Bool) (cs : List Char) :
    Except Fault (Except Fault Number × List Char) := do
  let (whole, rest) ← readWhole cs
  let (fraction, rest) ← readFraction rest
  let (exponent, rest) ← readExponent rest
  .ok (Numeral.number negative ⟨whole, fraction, exponent⟩ rest, rest)

end SimSweep.Json
