import SimSweep.Number.Binary64

/-! # Decimal numbers

    A decimal number is a coefficient and a power of ten. It converts to the
    nearest binary64 number, and a magnitude has a *shortest* decimal: the one
    with the fewest digits among those that convert back to it, and of these the
    nearest to it.
-/

namespace SimSweep

/-- The number `coefficient * 10 ^ exponent`. -/
structure Decimal where
  coefficient : Nat
  exponent : Int
  deriving DecidableEq

namespace Decimal

/-- The decimal digits of a natural number, most significant first. -/
def digitsOf (n : Nat) : List Char := Nat.toDigits 10 n

/-! ## Section 1: To binary64 -/

/-- The rank of the magnitude nearest to a decimal. A decimal of `10 ^ 400` or
    more is above every finite magnitude and one below `10 ^ -400` rounds to
    zero, so no power beyond these is ever formed. -/
def rank (d : Decimal) : Nat :=
  if d.coefficient = 0 then 0 else
  let width : Int := (digitsOf d.coefficient).length
  if 400 < width + d.exponent then rankBound
  else if width + d.exponent < -400 then 0
  else match d.exponent with
    | .ofNat e => Binary64.rankOfRatio (d.coefficient * Nat.pow 10 e) 1
    | .negSucc e => Binary64.rankOfRatio d.coefficient (Nat.pow 10 (e + 1))

/-- The binary64 number nearest to a decimal with a sign. -/
def toBinary64 (negative : Bool) (d : Decimal) : Binary64 :=
  Binary64.ofRank negative d.rank

/-! ## Section 2: The shortest decimal of a magnitude -/

/-- The neighbour that is taken when two are equally near. -/
inductive Tie where
  | upper
  | even

/-- A magnitude written out in full: where it is a multiple of `2 ^ -n`, which is
    `5 ^ n * 10 ^ -n`, it takes `n` places. -/
def exact (k : Nat) : Decimal :=
  let places := 1074 - Binary64.doublings k
  ⟨Binary64.significand k * Nat.pow 2 (Binary64.doublings k - 1074) * Nat.pow 5 places, -places⟩

/-- The nearer to `e` of its two neighbours that end `cut` digits before its end, as
    far as they convert to rank `k`. -/
def cutAt? (tie : Tie) (k : Nat) (e : Decimal) (cut : Nat) : Option Decimal :=
  let unit := Nat.pow 10 cut
  let lower : Decimal := ⟨e.coefficient / unit, e.exponent + cut⟩
  let upper : Decimal := ⟨e.coefficient / unit + 1, e.exponent + cut⟩
  let rest := e.coefficient % unit
  let prefersUpper : Bool :=
    if 2 * rest = unit then
      match tie with
      | .upper => true
      | .even => lower.coefficient % 2 == 1
    else decide (unit < 2 * rest)
  let (first, second) := if prefersUpper then (upper, lower) else (lower, upper)
  if first.rank = k then some first
  else if second.rank = k then some second
  else none

/-- The shortest decimal of the magnitude of rank `k`. Seventeen digits always
    suffice; the magnitude written out in full closes the search. -/
def shortest (tie : Tie) (k : Nat) : Decimal :=
  let e := exact k
  let width := (digitsOf e.coefficient).length
  ((List.range 17).findSome? fun i => cutAt? tie k e (width - (i + 1))).getD e

end Decimal

end SimSweep
