import SimSweep.Plan

/-! # The points of a plan

    A plan lists its points by three nested walks: over the rates, over the
    distances and over a range of 64-bit run indices that is stepped through one
    index at a time. Here the listing is tied to arithmetic: with `D` distances and
    `n` run indices for each pair, point `i` has rate `i / (D * n)`, distance
    `i / n % D` and the run index `i % n` above the first one.

    The run range comes first, since its walk is the only one that could go wrong
    at the ends of 64 bits. The two outer walks then are instances of one fact on
    lists made of blocks of equal length.
-/

namespace SimSweep.Plan

/-! ## Section 1: The run range -/

/-- The number of run indices is the length of the interval, and zero for an
    inverted one. -/
theorem runCount_eq_max (p : Plan) :
    (p.runCount : Int) = max 0 (p.lastRun.toInt - p.firstRun.toInt + 1) := by
  unfold runCount
  omega

/-- No index of the range wraps: it is the first one plus its place. -/
theorem toInt_run (p : Plan) {i : Nat} (h : i < p.runCount) :
    (p.run i).toInt = p.firstRun.toInt + i := by
  have hcount : i < p.lastRun.toInt - p.firstRun.toInt + 1 := by
    unfold runCount at h
    omega
  have hlo := Int64.le_toInt p.firstRun
  have hhi := Int64.toInt_lt p.lastRun
  exact Int64.toInt_ofInt_of_le (by omega) (by omega)

/-- The walk from `run` lists the whole interval up to `last`, behind what it was
    given in reverse. Induction on the walk itself: each step takes one index off
    the lower end of the interval. -/
theorem climb_eq (last run : Int64) (below : List Int64) :
    climb last run below =
      below.reverse ++
        (List.range (last.toInt - run.toInt + 1).toNat).map
          fun i : Nat => Int64.ofInt (run.toInt + i) := by
  induction run, below using climb.induct last with
  | case1 run below hlt ih =>
    have hint := Int64.lt_iff_toInt_lt.mp hlt
    have hlen : (last.toInt - run.toInt + 1).toNat =
        (last.toInt - (run + 1).toInt + 1).toNat + 1 := by
      rw [toInt_succ hlt]
      omega
    rw [climb, if_pos hlt, ih, hlen, List.range_succ_eq_map, toInt_succ hlt]
    -- the index just listed is place 0, and every later one moves up by a place
    simp only [List.reverse_cons, List.append_assoc, List.map_cons, List.map_map,
      List.singleton_append]
    congr 2
    · simp
    · apply List.map_congr_left
      intro i _
      simp only [Function.comp_apply, Nat.succ_eq_add_one]
      congr 1
      omega
  | case2 below hlt =>
    -- the last index itself, behind which there may be no next one in 64 bits
    rw [climb, if_neg hlt, if_pos rfl]
    have hone : (last.toInt - last.toInt + 1).toNat = 1 := by omega
    rw [hone]
    simp
  | case3 run below hlt hne =>
    -- an inverted range, of which the walk lists nothing
    have hgt : last.toInt < run.toInt := by
      have hle : ¬ run.toInt < last.toInt := fun h => hlt (Int64.lt_iff_toInt_lt.mpr h)
      have hint : run.toInt ≠ last.toInt := fun h => hne (Int64.toInt_inj.mp h)
      omega
    have hzero : (last.toInt - run.toInt + 1).toNat = 0 := by omega
    rw [climb, if_neg hlt, if_neg hne, hzero]
    simp

/-- Stepping through the range gives its indices by place. -/
theorem runs_eq (p : Plan) : p.runs = (List.range p.runCount).map p.run := by
  unfold runs
  rw [climb_eq]
  rfl

@[simp] theorem length_runs (p : Plan) : p.runs.length = p.runCount := by
  simp [runs_eq]

/-- The run index at a place of the range. -/
theorem getElem?_runs (p : Plan) {i : Nat} (h : i < p.runCount) : p.runs[i]? = some (p.run i) := by
  simp [runs_eq, h]

/-! ## Section 2: Lists made of blocks -/

/-- Blocks of length `k` make up a list that is `k` times as long as there are blocks. -/
theorem length_flatMap_blocks {α β : Type} (f : α → List β) {k : Nat} :
    ∀ xs : List α, (∀ x ∈ xs, (f x).length = k) → (xs.flatMap f).length = xs.length * k := by
  intro xs hlen
  induction xs with
  | nil => simp
  | cons x xs ih =>
    have hx : (f x).length = k := hlen x List.mem_cons_self
    have hrest := ih fun y hy => hlen y (List.mem_cons_of_mem x hy)
    rw [List.flatMap_cons, List.length_append, hx, hrest, List.length_cons, Nat.succ_mul,
      Nat.add_comm]

/-- In blocks of length `k` an element is found by division: the quotient selects
    the block and the remainder the place in it. -/
theorem getElem?_flatMap_blocks {α β : Type} (f : α → List β) {k : Nat} (hk : 0 < k) :
    ∀ (xs : List α), (∀ x ∈ xs, (f x).length = k) → ∀ i : Nat,
      (xs.flatMap f)[i]? = (xs[i / k]?).bind fun x => (f x)[i % k]? := by
  intro xs hlen
  induction xs with
  | nil => simp
  | cons x xs ih =>
    intro i
    have hx : (f x).length = k := hlen x List.mem_cons_self
    have hxs : ∀ y ∈ xs, (f y).length = k := fun y hy => hlen y (List.mem_cons_of_mem x hy)
    rw [List.flatMap_cons]
    by_cases hi : i < k
    -- in the first block, or else as many places on in the rest
    · rw [List.getElem?_append_left (by omega), Nat.div_eq_of_lt hi, Nat.mod_eq_of_lt hi]
      rfl
    · have hdiv : i / k = (i - k) / k + 1 := by
        rw [Nat.div_eq_sub_div hk (by omega)]
      have hmod : i % k = (i - k) % k := Nat.mod_eq_sub_mod (by omega)
      rw [List.getElem?_append_right (by omega), hx, ih hxs (i - k), hdiv, hmod]
      simp

/-! ## Section 3: The listing -/

/-- The points of one rate and one distance. -/
theorem length_row (p : Plan) (rate distance : Binary64) :
    (p.runs.map fun run => (⟨rate, distance, run⟩ : Point)).length = p.runCount := by
  simp

/-- The points of one rate. -/
theorem length_sheet (p : Plan) (rate : Binary64) :
    (p.distances.flatMap fun distance =>
        p.runs.map fun run => (⟨rate, distance, run⟩ : Point)).length =
      p.distances.length * p.runCount :=
  length_flatMap_blocks _ p.distances fun distance _ => length_row p rate distance

/-- All points: none are left out and none are listed twice. -/
@[simp] theorem length_points (p : Plan) : p.points.length = p.size := by
  unfold points size
  rw [length_flatMap_blocks _ p.rates fun rate _ => length_sheet p rate, Nat.mul_assoc]

/-- Capping the factors and the product is capping the product of all three: a factor is
    only capped where the product is beyond the limit too, unless another factor is zero. -/
theorem cappedMul_cappedMul (a b c : Nat) :
    cappedMul (cappedMul a b) (min c countLimit) = min (a * b * c) countLimit := by
  unfold cappedMul
  by_cases hc : c = 0
  · simp [hc]
  by_cases hab : a * b = 0
  · simp [hab]
  have hleft : a * b ≤ a * b * c := Nat.le_mul_of_pos_right _ (Nat.pos_of_ne_zero hc)
  have hright : c ≤ a * b * c := Nat.le_mul_of_pos_left _ (Nat.pos_of_ne_zero hab)
  by_cases hsmall : a * b * c ≤ countLimit
  -- nothing is capped
  · rw [Nat.min_eq_left (Nat.le_trans hleft hsmall), Nat.min_eq_left (Nat.le_trans hright hsmall)]
  -- what the capped factors make is still beyond the limit
  have hlimit : 0 < countLimit := by decide
  have hbeyond : countLimit ≤ min (a * b) countLimit * min c countLimit := by
    by_cases hpairs : a * b ≤ countLimit
    · by_cases hruns : c ≤ countLimit
      · rw [Nat.min_eq_left hpairs, Nat.min_eq_left hruns]
        exact Nat.le_of_not_le hsmall
      · rw [Nat.min_eq_left hpairs, Nat.min_eq_right (Nat.le_of_not_le hruns)]
        exact Nat.le_mul_of_pos_left _ (Nat.pos_of_ne_zero hab)
    · rw [Nat.min_eq_right (Nat.le_of_not_le hpairs)]
      exact Nat.le_mul_of_pos_right _ (by omega)
  rw [Nat.min_eq_right hbeyond, Nat.min_eq_right (Nat.le_of_not_le hsmall)]

/-- The count is the number of points, up to the limit of 64 bits. -/
theorem count_eq_min (p : Plan) : p.count = min p.size countLimit :=
  cappedMul_cappedMul _ _ _

/-- A number of points that fits 64 bits is counted exactly. -/
theorem count_eq_size {p : Plan} (h : p.size ≤ countLimit) : p.count = p.size := by
  rw [count_eq_min, Nat.min_eq_left h]

/-- The place that is computed for a point is its place in the listing. Empty value
    sets and inverted ranges have no blocks to divide by, so they come first. -/
theorem getElem?_points (p : Plan) (i : Nat) : p.points[i]? = p.point? i := by
  by_cases hn : p.runCount = 0
  -- no run indices
  · have hempty : p.points = [] := List.eq_nil_of_length_eq_zero (by simp [length_points, size, hn])
    cases hr : p.rates[i / (p.distances.length * p.runCount)]? <;>
      cases hd : p.distances[i / p.runCount % p.distances.length]? <;>
        simp [hempty, point?, hn]
  by_cases hD : p.distances = []
  -- no distances
  · have hempty : p.points = [] := List.eq_nil_of_length_eq_zero (by simp [length_points, size, hD])
    simp [hempty, point?, hD]
  have hpos : 0 < p.runCount := Nat.pos_of_ne_zero hn
  have hDpos : 0 < p.distances.length := List.length_pos_iff.mpr hD
  have hrow : ∀ rate, ∀ distance ∈ p.distances,
      (p.runs.map fun run => (⟨rate, distance, run⟩ : Point)).length = p.runCount :=
    fun rate distance _ => length_row p rate distance
  unfold points point?
  rw [getElem?_flatMap_blocks _ (Nat.mul_pos hDpos hpos) p.rates fun rate _ => length_sheet p rate]
  simp only [getElem?_flatMap_blocks _ hpos p.distances (hrow _), List.getElem?_map,
    Nat.mod_mul_left_div_self, Nat.mod_mul_left_mod,
    getElem?_runs p (Nat.mod_lt i hpos), if_neg hn]
  rfl

/-- The first points of a plan are the start of its listing. -/
theorem take_eq (p : Plan) (limit : Nat) : p.take limit = p.points.take limit := by
  unfold take
  rw [← length_points]
  induction limit with
  | zero => simp
  | succ limit ih =>
    rw [List.take_add_one, ← ih]
    by_cases h : limit < p.points.length
    · have hmin : min (limit + 1) p.points.length = limit + 1 := by omega
      have hmin' : min limit p.points.length = limit := by omega
      rw [hmin, hmin', List.range_succ, List.filterMap_append, getElem?_points]
      cases hp : p.point? limit <;> simp [hp]
    · have hmin : min (limit + 1) p.points.length = min limit p.points.length := by omega
      rw [hmin, List.getElem?_eq_none (by omega)]
      simp

/-- The listing has exactly as many points as the product says, and the point at
    each place below that is read off the place: the rate by the quotient by all
    points of one rate, the distance by the remaining quotient, the run index by
    the remainder, counted up from the first index without wrapping. Repeated
    values are values like any other. A listing that is read up to some limit is cut there. -/
theorem points_by_place (p : Plan) :
    (p.runCount : Int) = max 0 (p.lastRun.toInt - p.firstRun.toInt + 1) ∧
    p.points.length = p.rates.length * p.distances.length * p.runCount ∧
    (∀ i < p.rates.length * p.distances.length * p.runCount,
      ∃ rate distance run,
        p.points[i]? = some ⟨rate, distance, run⟩ ∧
        p.rates[i / (p.distances.length * p.runCount)]? = some rate ∧
        p.distances[i / p.runCount % p.distances.length]? = some distance ∧
        run.toInt = p.firstRun.toInt + (i % p.runCount : Nat)) ∧
    ∀ limit, p.take limit = p.points.take limit := by
  refine ⟨p.runCount_eq_max, p.length_points, ?_, p.take_eq⟩
  intro i hi
  have hn : 0 < p.runCount := by
    apply Nat.pos_of_ne_zero
    intro h
    simp [h] at hi
  have hD : 0 < p.distances.length := by
    apply Nat.pos_of_ne_zero
    intro h
    simp [h] at hi
  have hrate : i / (p.distances.length * p.runCount) < p.rates.length := by
    rw [Nat.div_lt_iff_lt_mul (Nat.mul_pos hD hn), ← Nat.mul_assoc]
    exact hi
  have hdistance : i / p.runCount % p.distances.length < p.distances.length := Nat.mod_lt _ hD
  refine ⟨p.rates[i / (p.distances.length * p.runCount)],
    p.distances[i / p.runCount % p.distances.length], p.run (i % p.runCount), ?_, ?_, ?_, ?_⟩
  · rw [getElem?_points, point?]
    simp [List.getElem?_eq_getElem hrate, List.getElem?_eq_getElem hdistance, Nat.ne_of_gt hn]
  · exact List.getElem?_eq_getElem hrate
  · exact List.getElem?_eq_getElem hdistance
  · exact p.toInt_run (Nat.mod_lt i hn)

end SimSweep.Plan
