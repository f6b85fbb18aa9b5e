import SimSweep.Number.Decimal

/-! # Numerals

    The written form of binary64 numbers. Every form starts from the digits of
    the shortest decimal; a *style* says where positional writing ends, how a
    whole number is marked and which neighbour an exact tie takes. Fixed places,
    for durations, round the exact value instead.
-/

namespace SimSweep

/-- How the shortest digits of a finite number are written. -/
structure NumeralStyle where
  /-- Which of two equally near shortest decimals is written. -/
  tie : Decimal.Tie
  /-- Whether a whole number in positional form ends in `.0`. -/
  marksWhole : Bool
  /-- The exponents of the leading digit that are written positionally: from the
      first up to, not including, the second. Without a range all are. -/
  positional : Option (Int × Int)

namespace NumeralStyle

/-- The form of commands, tables and messages: digits and a point at most. -/
def plain : NumeralStyle := ⟨.upper, false, none⟩

/-- The form of JSON text: always a point or an exponent, positional from
    `1e-5` up to, not including, `1e16`. -/
def json : NumeralStyle := ⟨.even, true, some (-5, 16)⟩

end NumeralStyle

namespace Decimal

/-! ## Section 1: Digits and places -/

/-- The digits and the exponent of the last one, with no zero at the end. -/
def significant (d : Decimal) : List Char × Int :=
  let ds := (digitsOf d.coefficient).reverse
  let kept := ds.dropWhile (· = '0')
  (kept.reverse, d.exponent + (ds.length - kept.length : Nat))

/-- Digits with the point in its place and zeros between the two where needed.
    A whole number has no point. -/
def positional (digits : List Char) (exponent : Int) : List Char :=
  match exponent with
  | .ofNat e => digits ++ List.replicate e '0'
  | .negSucc e =>
    let places := e + 1
    if places < digits.length then
      digits.take (digits.length - places) ++ '.' :: digits.drop (digits.length - places)
    else
      '0' :: '.' :: List.replicate (places - digits.length) '0' ++ digits

/-- Digits with the point after the first and a signed exponent. -/
def scientific (digits : List Char) (leading : Int) : List Char :=
  let significand := match digits with
    | d :: e :: ds => d :: '.' :: e :: ds
    | ds => ds
  let sign := if leading < 0 then '-' else '+'
  significand ++ 'e' :: sign :: digitsOf leading.natAbs

/-- Digits in a style; `exponent` is that of the last digit. -/
def write (style : NumeralStyle) (digits : List Char) (exponent : Int) : List Char :=
  let leading := exponent + digits.length - 1
  let plainly := match style.positional with
    | none => true
    | some (lo, hi) => decide (lo ≤ leading ∧ leading < hi)
  if plainly then
    positional digits exponent ++ if style.marksWhole ∧ 0 ≤ exponent then ['.', '0'] else []
  else scientific digits leading

end Decimal

namespace Binary64

/-! ## Section 2: Numbers in a style -/

/-- The magnitude of rank `k` in a style. -/
def magnitudeText (style : NumeralStyle) (k : Nat) : List Char :=
  if k = 0 then Decimal.write style ['0'] 0
  else
    let (digits, exponent) := (Decimal.shortest style.tie k).significant
    Decimal.write style digits exponent

/-- A number in a style. The sign of zero is kept, NaN has none. -/
def write (style : NumeralStyle) : Binary64 → List Char
  | .nan => "NaN".toList
  | .infinite negative => (if negative then ['-'] else []) ++ "inf".toList
  | .finite negative k => (if negative then ['-'] else []) ++ magnitudeText style k.val

/-- The plain text of a number. -/
def text (x : Binary64) : String := String.ofList (x.write .plain)

instance : ToString Binary64 := ⟨text⟩

/-! ## Section 3: Fixed places -/

/-- The magnitude of rank `k` with a fixed number of decimal places; a half in
    the last place goes to the even digit. -/
def fixedPlaces (places k : Nat) : List Char :=
  let n := divNearest (steps k * Nat.pow 10 places) scale
  let digits := Decimal.digitsOf n
  Decimal.positional (List.replicate (places + 1 - digits.length) '0' ++ digits) (-places)

end Binary64

end SimSweep
