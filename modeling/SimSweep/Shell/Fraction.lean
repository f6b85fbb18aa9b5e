import SimSweep.Number.Numeral
import SimSweep.Number.Reading

/-! # Fractions in formats

    Binary64 numbers with a wanted number of digits: in fixed places, with an
    exponent, or in whichever of the two is shorter. The exact value is rounded, and
    a half goes to the even digit.
-/

namespace SimSweep.Shell.Fraction

/-- The exponent of the leading digit of a magnitude above zero. -/
def leadingExponent (n d : Nat) : Int :=
  if d ≤ n then (Decimal.digitsOf (n / d)).length - 1
  else -((Decimal.digitsOf ((d - 1) / n)).length : Int)

/-- The whole number nearest to `n / d` in units of a power of ten. -/
def inUnits (n d : Nat) (exponent : Int) : Nat :=
  match exponent with
  | .ofNat e => divNearest n (d * Nat.pow 10 e)
  | .negSucc e => divNearest (n * Nat.pow 10 (e + 1)) d

/-- The digits of a magnitude, `places` of them behind the first, and the exponent of
    the first. -/
def significant (places k : Nat) : List Char × Int :=
  if k = 0 then (List.replicate (places + 1) '0', 0)
  else
    let n := Binary64.steps k
    let e := leadingExponent n Binary64.scale
    let digits := Decimal.digitsOf (inUnits n Binary64.scale (e - places))
    if digits.length ≤ places + 1 then (digits, e) else (digits.take (places + 1), e + 1)

/-- An exponent with a sign and at least two digits. -/
def exponentText (e : Int) : List Char :=
  let digits := Decimal.digitsOf e.natAbs
  (if e < 0 then '-' else '+') :: (List.replicate (2 - digits.length) '0' ++ digits)

/-- Digits with a point behind the first, if there are more. -/
def pointed : List Char → List Char
  | d :: e :: rest => d :: '.' :: e :: rest
  | cs => cs

/-- A magnitude with an exponent. -/
def scientific (places k : Nat) : List Char :=
  let (digits, e) := significant places k
  pointed digits ++ 'e' :: exponentText e

/-- A numeral without the zeros at the end of its fraction. -/
def withoutZeros (cs : List Char) : List Char :=
  if cs.contains '.' then
    let kept := cs.reverse.dropWhile (· = '0')
    (match kept with
      | '.' :: rest => rest
      | kept => kept).reverse
  else cs

/-- A magnitude with as many digits as wanted, in fixed places unless the exponent is
    small or not smaller than their number. Zeros at the end are left out unless they
    are kept. -/
def general (keepsZeros : Bool) (precision k : Nat) : List Char :=
  let wanted := max 1 precision
  let (digits, e) := significant (wanted - 1) k
  let strip (cs : List Char) : List Char := if keepsZeros then cs else withoutZeros cs
  if -4 ≤ e ∧ e < wanted then strip (Binary64.fixedPlaces (wanted - 1 - e).toNat k)
  else strip (pointed digits) ++ 'e' :: exponentText e

/-- The digits of a number below one in units of a power of sixteen, without zeros at
    the end unless `places` are wanted. -/
def hexPlaces (places : Nat) (keepsAll : Bool) (n : Nat) : List Char :=
  let digits := Nat.toDigits 16 n
  let digits := List.replicate (places - digits.length) '0' ++ digits
  if keepsAll then digits.take places
  else ((digits.take places).reverse.dropWhile (· = '0')).reverse

/-- A magnitude in base sixteen, with the exponent of a power of two. -/
def hexadecimal (precision : Option Nat) (k : Nat) : List Char :=
  let exponent : Int := if k < binade then -1022 else (Binary64.doublings k : Int) - 1022
  let exponent := if k = 0 then 0 else exponent
  let m := Binary64.significand k
  let places := precision.getD 13
  let m := if places < 13 then divNearest m (Nat.pow 16 (13 - places))
    else m * Nat.pow 16 (places - 13)
  let unit := Nat.pow 16 places
  let head := Nat.toDigits 16 (m / unit)
  let tail := hexPlaces places precision.isSome (m % unit)
  let tail := if places = 0 then [] else tail
  let sign := if exponent < 0 then '-' else '+'
  '0' :: 'x' :: head ++ (if tail.isEmpty then [] else '.' :: tail) ++
    'p' :: sign :: Decimal.digitsOf exponent.natAbs

/-- The magnitude of a number in a conversion. -/
def magnitude (conversion : Char) (keepsZeros : Bool) (precision : Option Nat) (k : Nat) :
    List Char :=
  match conversion with
  | 'f' => Binary64.fixedPlaces (precision.getD 6) k
  | 'e' => scientific (precision.getD 6) k
  | 'a' => hexadecimal precision k
  | _ => general keepsZeros (precision.getD 6) k

/-- Whether a number is negative, or is the negative zero, and its magnitude. -/
def text (conversion : Char) (keepsZeros : Bool) (precision : Option Nat) :
    Binary64 → Bool × List Char
  | .nan => (false, "nan".toList)
  | .infinite negative => (negative, "inf".toList)
  | .finite negative k => (negative, magnitude conversion keepsZeros precision k.val)

/-- A number that was read. -/
structure Reading where
  value : Binary64
  /-- Whether it is no number, written with a minus. -/
  isNegativeNan : Bool := false
  /-- Whether it is too large or too small to be held. -/
  isOutOfRange : Bool := false

/-- The value of digits in base sixteen with a point and the exponent of a power of two
    behind `0x`, and what follows them. -/
def hexadecimal? (cs : List Char) : Option (Nat × Int × List Char) :=
  match cs with
  | '0' :: x :: rest =>
    if x ≠ 'x' ∧ x ≠ 'X' then none
    else
      let isHex (c : Char) : Bool := c.isDigit || "abcdefABCDEF".toList.contains c
      let whole := rest.takeWhile isHex
      let rest := rest.drop whole.length
      let (part, rest) := match rest with
        | '.' :: more => (more.takeWhile isHex, more.dropWhile isHex)
        | more => ([], more)
      if whole.isEmpty ∧ part.isEmpty then none
      else
        let n := (whole ++ part).foldl (fun n c =>
          16 * n + if c.isDigit then c.toNat - '0'.toNat else c.toLower.toNat - 'a'.toNat + 10) 0
        let shift : Int := -(4 * (part.length : Int))
        match rest with
        | p :: more =>
          if p ≠ 'p' ∧ p ≠ 'P' then some (n, shift, rest)
          else
            let (negative, digits) := Decimal.sign more
            let ds := digits.takeWhile Char.isDigit
            if ds.isEmpty then some (n, shift, rest)
            else
              let e : Int := Decimal.valueOf ds
              some (n, shift + (if negative then -e else e), digits.drop ds.length)
        | [] => some (n, shift, [])
  | _ => none

/-- The number `± n * 2 ^ e`. -/
def ofBinary (negative : Bool) (n : Nat) (e : Int) : Binary64 :=
  if n = 0 then .zero negative
  else if 2000 < e then .infinite negative
  else if e < -40000 then .zero negative
  else match e with
    | .ofNat e => .ofRatio negative (n * Nat.pow 2 e) 1
    | .negSucc e => .ofRatio negative n (Nat.pow 2 (e + 1))

/-- The longest start of a text that denotes a number, as that number and what
    follows it. -/
def leading? (cs : List Char) : Option (Reading × List Char) :=
  let (negative, body) := Decimal.sign cs
  match hexadecimal? body with
  | some (n, e, rest) => some ({ value := ofBinary negative n e }, rest)
  | none =>
    let isWritten (cs : List Char) : Bool := cs.any fun c => '1' ≤ c ∧ c ≤ '9'
    let found := (List.range (min cs.length 2000 + 1)).reverse.findSome? fun n =>
      (Binary64.read? (cs.take n)).map fun x => (x, cs.take n, cs.drop n)
    found.map fun (x, taken, rest) =>
      let mantissa := taken.takeWhile fun c => c != 'e' && c != 'E'
      let isOut := match x with
        | .infinite _ => taken.any Char.isDigit
        | .finite _ k => decide (k.val < binade) && isWritten mantissa
        | .nan => false
      let rest := match x, rest with
        | .nan, '(' :: more =>
          match more.dropWhile fun c => c.isAlphanum || c == '_' with
          | ')' :: after => after
          | _ => rest
        | _, rest => rest
      ({ value := x, isNegativeNan := negative && (x matches .nan), isOutOfRange := isOut }, rest)

end SimSweep.Shell.Fraction
