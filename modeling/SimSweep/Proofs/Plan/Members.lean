import SimSweep.Proofs.Plan.Points

/-! # What belongs to a plan

    Which run indices and which points a plan has, without regard to their places: the
    range has every index between its ends, and the points are all triples of a rate, a
    distance and a run index.
-/

namespace SimSweep.Plan

/-- The run indices are those between the first and the last one. -/
theorem mem_runs_iff {p : Plan} {run : Int64} :
    run ∈ p.runs ↔ p.firstRun.toInt ≤ run.toInt ∧ run.toInt ≤ p.lastRun.toInt := by
  rw [runs_eq, List.mem_map]
  constructor
  · rintro ⟨i, hi, rfl⟩
    have hlt := List.mem_range.mp hi
    rw [toInt_run p hlt]
    unfold runCount at hlt
    omega
  · rintro ⟨hfirst, hlast⟩
    -- the place is the distance from the first index
    have hlt : (run.toInt - p.firstRun.toInt).toNat < p.runCount := by
      unfold runCount
      omega
    refine ⟨(run.toInt - p.firstRun.toInt).toNat, List.mem_range.mpr hlt, ?_⟩
    apply Int64.toInt_inj.mp
    rw [toInt_run p hlt]
    omega

theorem mem_points_iff {plan : Plan} {p : Point} :
    p ∈ plan.points ↔ p.rate ∈ plan.rates ∧ p.distance ∈ plan.distances ∧ p.run ∈ plan.runs := by
  unfold points
  simp only [List.mem_flatMap, List.mem_map]
  constructor
  · rintro ⟨rate, hrate, distance, hdistance, run, hrun, rfl⟩
    exact ⟨hrate, hdistance, hrun⟩
  · rintro ⟨hrate, hdistance, hrun⟩
    exact ⟨p.rate, hrate, p.distance, hdistance, p.run, hrun, rfl⟩

end SimSweep.Plan
