import SimSweep.Number.Decimal
import SimSweep.Text.Layout
import SimSweep.Time.Calendar

/-! # Timestamps

    An instant in universal time to the nanosecond. In a leap second the
    nanoseconds go on from `10 ^ 9`. The written form is that of RFC 3339 with
    as many places as the nanoseconds need, in groups of three.
-/

namespace SimSweep

/-- An instant, counted from the start of 1970. -/
structure Timestamp where
  seconds : Int
  nanos : Nat
  deriving DecidableEq

namespace Timestamp

/-- The number of seconds in a day. -/
def daySeconds : Int := 86400

/-- The date of an instant. -/
def date (t : Timestamp) : Date := Date.ofDays (t.seconds.fdiv daySeconds)

/-- The second of the day of an instant. -/
def secondOfDay (t : Timestamp) : Nat := (t.seconds.fmod daySeconds).toNat

/-- A number with leading zeros up to a width. -/
def padded (width n : Nat) : List Char := padLeft '0' width (Decimal.digitsOf n)

/-- The year: four digits from 0 to 9999, otherwise a sign and at least four. -/
def yearText (year : Int) : List Char :=
  if 0 ≤ year ∧ year ≤ 9999 then padded 4 year.natAbs
  else (if year < 0 then '-' else '+') :: padded 4 year.natAbs

/-- The time of day without the part below a second. -/
def clockText (t : Timestamp) : List Char :=
  let s := t.secondOfDay
  padded 2 (s / 3600) ++ ':' :: padded 2 (s / 60 % 60) ++ ':' ::
    padded 2 (s % 60 + t.nanos / Nat.pow 10 9)

/-- The part below a second, in 0, 3, 6 or 9 places. -/
def fractionText (nanos : Nat) : List Char :=
  if nanos = 0 then []
  else if nanos % Nat.pow 10 6 = 0 then '.' :: padded 3 (nanos / Nat.pow 10 6)
  else if nanos % Nat.pow 10 3 = 0 then '.' :: padded 6 (nanos / Nat.pow 10 3)
  else '.' :: padded 9 nanos

/-- The text of an instant. -/
def text (t : Timestamp) : List Char :=
  yearText t.date.year ++ '-' :: padded 2 t.date.month ++ '-' :: padded 2 t.date.day ++
    'T' :: t.clockText ++ fractionText (t.nanos % Nat.pow 10 9) ++ ['Z']

/-- The time of day to the millisecond. -/
def clockMillis (t : Timestamp) : List Char :=
  t.clockText ++ '.' :: padded 3 (t.nanos % Nat.pow 10 9 / Nat.pow 10 6)

end Timestamp

end SimSweep
