/-! # Binary64 numbers

    Data rates, distances and durations in seconds are IEEE 754 binary64
    numbers. A finite one is held as a sign and the *rank* of its magnitude:
    its position among all magnitudes in increasing order, so that rank `0`
    is zero and rank `1` the smallest subnormal. Two numbers are the same
    term exactly when they have the same bits; all NaNs are one.

    Exact arithmetic needs natural numbers only, since every magnitude is a
    whole number of *steps* of `2 ^ -1074`.
-/

namespace SimSweep

/-- How many magnitudes there are from one power of two up to the next. -/
abbrev binade : Nat := Nat.pow 2 52

/-- The number of finite magnitudes; a rank from here on is out of range. -/
abbrev rankBound : Nat := 2047 * binade

/-- A binary64 number. -/
inductive Binary64 where
  | nan
  | infinite (negative : Bool)
  | finite (negative : Bool) (rank : Fin rankBound)
  deriving DecidableEq

/-! ## Section 1: Rounding a quotient -/

/-- The whole number nearest to `n / d`; a half goes to the even neighbour. -/
def divNearest (n d : Nat) : Nat :=
  let q := n / d
  let r := n % d
  if 2 * r < d then q else if d < 2 * r then q + 1 else q + q % 2

namespace Binary64

/-! ## Section 2: Ranks and steps -/

/-- The number of steps in one. -/
def scale : Nat := Nat.pow 2 1074

/-- How often the distance of one step has doubled at rank `k`. The magnitudes of the
    first two binades are one step apart, and the distance doubles with every further
    one. -/
def doublings (k : Nat) : Nat := k / binade - 1

/-- The magnitude of rank `k` in units of the distance at its rank. -/
def significand (k : Nat) : Nat := if k < binade then k else binade + k % binade

/-- The magnitude of rank `k`, in steps. -/
def steps (k : Nat) : Nat := significand k * Nat.pow 2 (doublings k)

/-- The rank of the magnitude nearest to `n / d`, ties to the even significand.
    Where the significand rounds up to `2 ^ 53`, the sum is already the rank of
    the next power of two. -/
def rankOfRatio (n d : Nat) : Nat :=
  let s := n * scale
  let shift := (s / d).log2 - 52
  shift * binade + divNearest s (d * Nat.pow 2 shift)

/-- The number with a given sign and rank; beyond the finite ranks lies infinity. -/
def ofRank (negative : Bool) (k : Nat) : Binary64 :=
  if h : k < rankBound then .finite negative ⟨k, h⟩ else .infinite negative

/-- The number nearest to `± n / d`. -/
def ofRatio (negative : Bool) (n d : Nat) : Binary64 :=
  ofRank negative (rankOfRatio n d)

/-- The number nearest to a whole number. -/
def ofNat (n : Nat) : Binary64 := ofRatio false n 1

/-- Zero with a sign. -/
def zero (negative : Bool) : Binary64 := .finite negative ⟨0, by decide⟩

instance : Inhabited Binary64 := ⟨zero false⟩

/-- The rank of a quotient of two magnitudes. -/
def rankOfQuotient (j k : Nat) : Nat := rankOfRatio (steps j) (steps k)

/-- The rank of a product of two magnitudes. -/
def rankOfProduct (j k : Nat) : Nat := rankOfRatio (steps j * steps k) (scale * scale)

/-- The rank of a sum of two magnitudes. -/
def rankOfSum (j k : Nat) : Nat := rankOfRatio (steps j + steps k) scale

/-! ## Section 3: Tests -/

/-- Neither NaN nor infinite. -/
def isFinite : Binary64 → Bool
  | .finite _ _ => true
  | _ => false

/-- Below zero; neither NaN nor negative zero is. -/
def isNegative : Binary64 → Bool
  | .nan => false
  | .infinite negative => negative
  | .finite negative k => negative && k.val != 0

/-- A whole number; negative zero is one, NaN and the infinities are not. -/
def isWhole : Binary64 → Bool
  | .finite _ k => steps k.val % scale == 0
  | _ => false

/-- Above the whole number `n`. -/
def exceeds (n : Nat) : Binary64 → Bool
  | .nan => false
  | .infinite negative => !negative
  | .finite negative k => !negative && decide (n * scale < steps k.val)

end Binary64

end SimSweep
