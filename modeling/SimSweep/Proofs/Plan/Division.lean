import Mathlib.Data.List.Perm.Basic
import Mathlib.Data.List.ProdSigma
import SimSweep.Proofs.Plan.Counts

/-! # Dividing a plan

    A sweep can be divided in two without losing or repeating work. The rates are the
    outermost walk, so two lists of them are swept one after the other. The run range is
    the innermost walk: cut in two, it is cut under every rate and every distance, and
    the two halves hold the same points as the whole in another order. Main statement:
    `points_of_parts`.

    The range is cut first (`runs_cut`). The two outer walks then are permuted by one
    fact each, since a walk over joined blocks is the two walks over the blocks up to
    order.
-/

namespace SimSweep.Plan

variable {p : Plan} {middle : Int64}

/-! ## Section 1: The run range -/

/-- The part of a plan up to a run index. -/
def upTo (p : Plan) (middle : Int64) : Plan := { p with lastRun := middle }

/-- The part of a plan behind a run index. -/
def beyond (p : Plan) (middle : Int64) : Plan := { p with firstRun := middle + 1 }

/-- Below the last run index there is room for the next one, so no index is lost at the
    cut and none is counted twice. -/
theorem runCount_cut (hfirst : p.firstRun ≤ middle) (hlast : middle < p.lastRun) :
    p.runCount = (p.upTo middle).runCount + (p.beyond middle).runCount := by
  have hle := Int64.le_iff_toInt_le.mp hfirst
  have hlt := Int64.lt_iff_toInt_lt.mp hlast
  have hnext : (middle + 1).toInt = middle.toInt + 1 := toInt_succ hlast
  unfold runCount upTo beyond
  simp only
  rw [hnext]
  omega

/-- A range is its part up to an index and then the part behind it. -/
theorem runs_cut (hfirst : p.firstRun ≤ middle) (hlast : middle < p.lastRun) :
    p.runs = (p.upTo middle).runs ++ (p.beyond middle).runs := by
  have hle := Int64.le_iff_toInt_le.mp hfirst
  have hnext : (middle + 1).toInt = middle.toInt + 1 := toInt_succ hlast
  -- the second part starts as many places on as the first part has
  have hplaces : ((p.upTo middle).runCount : Int) = middle.toInt - p.firstRun.toInt + 1 := by
    unfold runCount upTo
    simp only
    omega
  have hmoved : ∀ i : Nat, p.run ((p.upTo middle).runCount + i) = (p.beyond middle).run i := by
    intro i
    unfold run beyond
    simp only
    congr 1
    rw [hnext, Int.natCast_add, hplaces]
    omega
  rw [runs_eq, runs_eq, runs_eq, runCount_cut hfirst hlast, List.range_add, List.map_append,
    List.map_map]
  congr 1
  exact List.map_congr_left fun i _ => hmoved i

/-! ## Section 2: The points -/

/-- The points of one pair of a rate and a distance, for some run indices. -/
def cell (runs : List Int64) (pair : Binary64 × Binary64) : List Point :=
  runs.map fun run => ⟨pair.1, pair.2, run⟩

/-- The two outer walks are one over the pairs of a rate and a distance. -/
theorem points_eq_flatMap_cell (p : Plan) :
    p.points = (p.rates.product p.distances).flatMap (cell p.runs) := by
  unfold points List.product
  rw [List.flatMap_assoc]
  apply List.flatMap_congr
  intro rate _
  rw [List.flatMap_map]
  rfl

/-- Rates are swept one after the other. -/
theorem points_append_rates (p : Plan) (rates rates' : List Binary64) :
    { p with rates := rates ++ rates' }.points =
      { p with rates := rates }.points ++ { p with rates := rates' }.points := by
  unfold points
  exact List.flatMap_append

/-- Where the range is cut, so is the cell of every pair. -/
theorem points_eq_flatMap_cut (hfirst : p.firstRun ≤ middle) (hlast : middle < p.lastRun) :
    p.points = (p.rates.product p.distances).flatMap fun pair =>
      cell (p.upTo middle).runs pair ++ cell (p.beyond middle).runs pair := by
  rw [p.points_eq_flatMap_cell, runs_cut hfirst hlast]
  apply List.flatMap_congr
  intro pair _
  exact List.map_append

/-- The parts are walks over the same pairs as the whole. -/
theorem points_upTo_append_beyond (p : Plan) (middle : Int64) :
    (p.upTo middle).points ++ (p.beyond middle).points =
      (p.rates.product p.distances).flatMap (cell (p.upTo middle).runs) ++
        (p.rates.product p.distances).flatMap (cell (p.beyond middle).runs) := by
  rw [points_eq_flatMap_cell, points_eq_flatMap_cell]
  rfl

/-- The two parts have the points of the whole, each as often as the whole has it. -/
theorem points_perm (hfirst : p.firstRun ≤ middle) (hlast : middle < p.lastRun) :
    p.points.Perm ((p.upTo middle).points ++ (p.beyond middle).points) := by
  rw [points_eq_flatMap_cut hfirst hlast, points_upTo_append_beyond]
  exact (List.flatMap_append_perm _ _ _).symm

/-- With one pair of a rate and a distance, or none, no point changes its place. -/
theorem points_eq_append (hfirst : p.firstRun ≤ middle) (hlast : middle < p.lastRun)
    (hpairs : p.rates.length * p.distances.length ≤ 1) :
    p.points = (p.upTo middle).points ++ (p.beyond middle).points := by
  have hlength : (p.rates.product p.distances).length ≤ 1 :=
    Nat.le_trans (Nat.le_of_eq (List.length_product p.rates p.distances)) hpairs
  rw [points_eq_flatMap_cut hfirst hlast, points_upTo_append_beyond]
  generalize p.rates.product p.distances = pairs at hlength
  cases pairs with
  | nil => rfl
  | cons pair rest =>
    have hrest : rest = [] := List.eq_nil_of_length_eq_zero (by simpa using hlength)
    simp [hrest]

/-! ## Section 3: The counts -/

/-- Points that make up two plans are counted by them, as long as the whole is counted
    exactly. -/
theorem count_eq_add {q q' : Plan} (hpoints : p.points.Perm (q.points ++ q'.points))
    (hfits : p.points.length ≤ countLimit) : p.count = q.count + q'.count := by
  have hlength : p.points.length = q.points.length + q'.points.length := by
    rw [hpoints.length_eq, List.length_append]
  simp only [length_points] at hlength hfits
  rw [count_eq_size hfits, count_eq_size (by omega), count_eq_size (by omega), hlength]

/-- A plan over two lists of rates is the plan over the first and then that over the
    second, point by point. A plan whose range is cut behind one of its run indices, but
    not behind the last, has the points of its two parts, each as often as they have it,
    and in their order if there is no more than one pair of a rate and a distance. In
    both cases the counts add up wherever the number of points fits 64 bits. -/
theorem points_of_parts (p : Plan) :
    (∀ rates rates' : List Binary64,
      let whole := { p with rates := rates ++ rates' }
      let one := { p with rates }
      let other := { p with rates := rates' }
      whole.points = one.points ++ other.points ∧
      (whole.points.length ≤ countLimit → whole.count = one.count + other.count)) ∧
    ∀ middle, p.firstRun ≤ middle → middle < p.lastRun →
      let low := { p with lastRun := middle }
      let high := { p with firstRun := middle + 1 }
      p.points.Perm (low.points ++ high.points) ∧
      (p.rates.length * p.distances.length ≤ 1 → p.points = low.points ++ high.points) ∧
      (p.points.length ≤ countLimit → p.count = low.count + high.count) := by
  constructor
  · intro rates rates' whole one other
    have hpoints : whole.points = one.points ++ other.points := p.points_append_rates rates rates'
    exact ⟨hpoints, count_eq_add (.of_eq hpoints)⟩
  · intro middle hfirst hlast low high
    have hperm : p.points.Perm (low.points ++ high.points) := points_perm hfirst hlast
    exact ⟨hperm, points_eq_append hfirst hlast, count_eq_add hperm⟩

/-- The widest range that is still counted exactly, cut between its negative run indices
    and the others, and one rate twice. -/
theorem points_of_parts_widest :
    let low := { widest with lastRun := -1 }
    let high := { widest with firstRun := -1 + 1 }
    let pair : Plan := ⟨[.ofNat 8] ++ [.ofNat 8], [.ofNat 50, .ofNat 50], -1, 1⟩
    let half : Plan := ⟨[.ofNat 8], [.ofNat 50, .ofNat 50], -1, 1⟩
    ((widest.firstRun ≤ -1 ∧ -1 < widest.lastRun) ∧
      widest.rates.length * widest.distances.length ≤ 1 ∧ widest.points.length ≤ countLimit ∧
      pair.points.length ≤ countLimit) ∧
    widest.points.Perm (low.points ++ high.points) ∧ widest.points = low.points ++ high.points ∧
    (widest.count = low.count + high.count ∧ low.count = 9223372036854775808) ∧
    pair.points = half.points ++ half.points ∧ pair.count = half.count + half.count := by
  intro low high pair half
  have hfirst : widest.firstRun ≤ -1 := by decide
  have hlast : -1 < widest.lastRun := by decide
  have hpairs : widest.rates.length * widest.distances.length ≤ 1 := by decide
  have hwide : widest.points.length ≤ countLimit := by
    rw [length_points]
    decide
  have hpair : pair.points.length ≤ countLimit := by
    rw [length_points]
    decide
  obtain ⟨hperm, heq, hcount⟩ := (points_of_parts widest).2 (-1) hfirst hlast
  obtain ⟨hrates, hrateCount⟩ := (points_of_parts half).1 [.ofNat 8] [.ofNat 8]
  exact ⟨⟨⟨hfirst, hlast⟩, hpairs, hwide, hpair⟩, hperm, heq hpairs, ⟨hcount hwide, by decide⟩,
    hrates, hrateCount hpair⟩

end SimSweep.Plan
