import SimSweep.Number.Numeral

/-! # Durations

    A duration is a whole number of seconds of 64 bits and a whole number of
    nanoseconds below one second. As a number of seconds it is rounded to
    binary64 in two steps: both parts first, then their sum.
-/

namespace SimSweep

/-- A length of time. -/
structure Duration where
  seconds : Nat
  nanos : Nat
  seconds_lt : seconds < Nat.pow 2 64 := by decide
  nanos_lt : nanos < Nat.pow 10 9 := by decide
  deriving DecidableEq

namespace Duration

/-- No time at all. -/
def zero : Duration := { seconds := 0, nanos := 0 }

instance : Inhabited Duration := ⟨zero⟩

/-- A duration from seconds and any number of nanoseconds, of which whole
    seconds are carried over; none if the seconds do not fit 64 bits. -/
def ofParts? (seconds nanos : Nat) : Option Duration :=
  if h : seconds + nanos / Nat.pow 10 9 < Nat.pow 2 64 then
    some ⟨seconds + nanos / Nat.pow 10 9, nanos % Nat.pow 10 9, h, Nat.mod_lt _ (by decide)⟩
  else none

/-- The time from one reading of a clock in nanoseconds to a later one. -/
def between (start stop : Nat) : Duration := (ofParts? 0 (stop - start)).getD zero

/-- The rank of the magnitude of a duration in seconds. -/
def secondsRank (d : Duration) : Nat :=
  Binary64.rankOfSum (Binary64.rankOfRatio d.seconds 1)
    (Binary64.rankOfRatio d.nanos (Nat.pow 10 9))

/-- A duration in milliseconds. -/
def milliseconds (d : Duration) : Binary64 :=
  Binary64.ofRank false (Binary64.rankOfProduct d.secondsRank (Binary64.rankOfRatio 1000 1))

/-- A duration in seconds with three places. -/
def text (d : Duration) : List Char := Binary64.fixedPlaces 3 d.secondsRank ++ ['s']

end Duration

end SimSweep
