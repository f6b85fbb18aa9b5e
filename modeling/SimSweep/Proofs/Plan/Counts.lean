import SimSweep.Proofs.Plan.Points
import SimSweep.Proofs.Sweep.Loop

/-! # The count of a plan

    The number of points is computed in 64 bits, by three steps that stop at the limit:
    the run indices are counted, the rates are multiplied by the distances, and the two
    are multiplied. Main statement: this is the exact number, which needs no bound, cut
    off at the limit. So a plan counts as empty only if it has no points, and a number
    that fits is that of the points and that of the invocations in every report.
-/

namespace SimSweep.Plan

/-- The exact number of points, as a product of unbounded numbers. -/
theorem size_eq_mul_max (p : Plan) :
    (p.size : Int) =
      p.rates.length * p.distances.length *
        max 0 (p.lastRun.toInt - p.firstRun.toInt + 1) := by
  unfold size
  rw [Int.natCast_mul, Int.natCast_mul, p.runCount_eq_max]

/-- A plan counts as empty exactly if it lists no point: the limit is not zero. -/
theorem isEmpty_iff (p : Plan) : p.isEmpty = true ↔ p.points = [] := by
  have hlimit : countLimit ≠ 0 := by decide
  rw [← List.length_eq_zero_iff, p.length_points]
  unfold isEmpty
  rw [beq_iff_eq, p.count_eq_min]
  omega

/-- The report of a sweep has as many invocations as the plan has points. -/
theorem total_sweep {W : Type} (s : Stage (StateM W)) (t : Template) (p : Plan) (w : W) :
    ((s.sweep t p).run w).1.total = p.size := by
  rw [← p.length_points, ← s.map_point_sweep t p w, List.length_map]
  rfl

/-- The count of a plan is the product of the numbers of its rates, its distances and its
    run indices, computed without bounds and cut off at the limit of 64 bits. The plan
    counts as empty exactly if it has no points. If the product fits 64 bits, the count is
    the number of points and that of the invocations in the report of every sweep, on
    whatever stage, with a plan or with its values given one by one. -/
theorem count_is_capped_product (p : Plan) :
    let product : Int := p.rates.length * p.distances.length *
      max 0 (p.lastRun.toInt - p.firstRun.toInt + 1)
    (p.count : Int) = min product countLimit ∧
    (p.isEmpty = true ↔ p.points = []) ∧
    (product ≤ countLimit →
      p.count = p.points.length ∧
      ∀ (W : Type) (s : Stage (StateM W)) (t : Template) (w : W),
        ((s.sweep t p).run w).1.total = p.count ∧
        ((s.sweepValues p.rates p.distances p.firstRun p.lastRun t).run w).1.total =
          p.count) := by
  intro product
  have hsize : (p.size : Int) = product := p.size_eq_mul_max
  refine ⟨?_, p.isEmpty_iff, ?_⟩
  · rw [p.count_eq_min, ← hsize]
    omega
  · intro hfits
    have hcount : p.count = p.size := count_eq_size (by omega)
    refine ⟨by rw [hcount, p.length_points], ?_⟩
    -- values given one by one are swept as a plan too, on a stage without a log
    intro W s t w
    rw [hcount]
    exact ⟨p.total_sweep s t w, p.total_sweep s.quiet t w⟩

/-- All run indices of 64 bits but the last: their number is the limit itself. -/
def widest : Plan := ⟨[.ofNat 1], [.ofNat 50], Int64.minValue, Int64.maxValue - 1⟩

/-- At the limit the count is still exact, and one run index more is not counted. -/
theorem count_is_capped_product_widest :
    ((widest.rates.length * widest.distances.length *
        max 0 (widest.lastRun.toInt - widest.firstRun.toInt + 1) : Int) ≤ countLimit ∧
      widest.points.length = 18446744073709551615) ∧
    { widest with lastRun := Int64.maxValue }.count = 18446744073709551615 := by
  have hproduct : (widest.rates.length * widest.distances.length *
      max 0 (widest.lastRun.toInt - widest.firstRun.toInt + 1) : Int) ≤ countLimit := by
    decide
  have hcount : widest.count = 18446744073709551615 := by decide
  obtain ⟨-, -, hexact⟩ := count_is_capped_product widest
  exact ⟨⟨hproduct, (hexact hproduct).1.symm.trans hcount⟩, by decide⟩

end SimSweep.Plan
