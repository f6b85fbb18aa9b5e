import SimSweep.Number.Numeral

/-! # Sweep plans

    A plan is the product of a list of data rates, a list of distances and an
    inclusive range of run indices. Its points are listed rate by rate, within a
    rate distance by distance, and within a distance by ascending run index.
-/

namespace SimSweep

/-- One simulator invocation's parameters. -/
structure Point where
  rate : Binary64
  distance : Binary64
  run : Int64
  deriving DecidableEq

/-- The seed of the random number generator is always the run index. -/
def Point.seed (p : Point) : Int64 := p.run

/-- Everything a sweep will launch. -/
structure Plan where
  rates : List Binary64
  distances : List Binary64
  firstRun : Int64
  lastRun : Int64
  deriving DecidableEq

/-- Counts are reported in 64 bits and stay at this value beyond. -/
def countLimit : Nat := Nat.pow 2 64 - 1

namespace Plan

/-! ## Section 1: The points -/

/-- The exact number of run indices; none when the range is inverted. -/
def runCount (p : Plan) : Nat := (p.lastRun.toInt - p.firstRun.toInt + 1).toNat

/-- The `i`-th run index of the range. -/
def run (p : Plan) (i : Nat) : Int64 := Int64.ofInt (p.firstRun.toInt + i)

/-- Below another index there is room for one more, so the next index does not wrap. -/
theorem toInt_succ {run last : Int64} (h : run < last) : (run + 1).toInt = run.toInt + 1 := by
  have hlt := Int64.lt_iff_toInt_lt.mp h
  have hlo := Int64.le_toInt run
  have hhi := Int64.toInt_lt last
  rw [Int64.toInt_add, Int64.toInt_one]
  exact Int.bmod_eq_of_le (by omega) (by omega)

/-- The indices from `run` up to `last`, behind those that are held in reverse. The last
    index is the last step: what would follow it may not exist in 64 bits. -/
def climb (last run : Int64) (below : List Int64) : List Int64 :=
  if run < last then climb last (run + 1) (run :: below)
  else if run = last then (run :: below).reverse
  else below.reverse
termination_by (last.toInt - run.toInt).toNat
decreasing_by
  have hlt := Int64.lt_iff_toInt_lt.mp ‹run < last›
  rw [toInt_succ ‹run < last›]
  omega

/-- The run indices in ascending order, found by stepping through the range. -/
def runs (p : Plan) : List Int64 := climb p.lastRun p.firstRun []

/-- The points in dispatch order. -/
def points (p : Plan) : List Point :=
  p.rates.flatMap fun rate =>
    p.distances.flatMap fun distance => p.runs.map fun run => ⟨rate, distance, run⟩

/-- The exact number of points. -/
def size (p : Plan) : Nat := p.rates.length * p.distances.length * p.runCount

/-- The `i`-th point, found without listing those before it. -/
def point? (p : Plan) (i : Nat) : Option Point := do
  let n := p.runCount
  let rate ← p.rates[i / (p.distances.length * n)]?
  let distance ← p.distances[i / n % p.distances.length]?
  if n = 0 then none else some ⟨rate, distance, p.run (i % n)⟩

/-- The first `limit` points, found without listing those after them. -/
def take (p : Plan) (limit : Nat) : List Point :=
  (List.range (min limit p.size)).filterMap p.point?

/-! ## Section 2: The counts -/

/-- A product that stays at the limit. -/
def cappedMul (m n : Nat) : Nat := min (m * n) countLimit

/-- The number of run indices for each pair of a rate and a distance. -/
def runsPerPoint (p : Plan) : Nat := min p.runCount countLimit

/-- The number of points, capped step by step. -/
def count (p : Plan) : Nat :=
  cappedMul (cappedMul p.rates.length p.distances.length) p.runsPerPoint

/-- Whether there is nothing to launch. -/
def isEmpty (p : Plan) : Bool := p.count == 0

end Plan

end SimSweep
