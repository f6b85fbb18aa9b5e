import SimSweep.Proofs.Number.RoundTrip

/-! # The text of whole numbers

    A whole number that is small enough to be held exactly is written as its decimal
    digits and nothing else. The search for the shortest decimal cuts digits off a whole
    number only as long as they are zeros, since a cut anywhere else leaves another
    whole number, and that has another rank.
-/

namespace SimSweep

/-- The first place at which a search succeeds. -/
theorem findSome?_range_eq_some {β : Type} {n : Nat} {f : Nat → Option β} {b : β}
    (h : (List.range n).findSome? f = some b) : ∃ j, f j = some b ∧ ∀ i < j, f i = none := by
  obtain ⟨before, j, after, hsplit, hj, hbefore⟩ := List.findSome?_eq_some_iff.mp h
  refine ⟨j, hj, fun i hi => hbefore i ?_⟩
  have hlt : j < n := by
    rw [← List.mem_range, hsplit]
    simp
  have hmem : i ∈ before ++ j :: after := by
    rw [← hsplit, List.mem_range]
    exact Nat.lt_trans hi hlt
  have hsorted : (before ++ j :: after).Pairwise (· < ·) := by
    rw [← hsplit]
    exact List.pairwise_lt_range
  have hafter := (List.pairwise_cons.mp (List.pairwise_append.mp hsorted).2.1).1
  rcases List.mem_append.mp hmem with hi' | hi'
  · exact hi'
  · rcases List.mem_cons.mp hi' with rfl | hi'
    · exact absurd hi (Nat.lt_irrefl _)
    · exact absurd (hafter i hi') (Nat.lt_asymm hi)

namespace Decimal

open Binary64 (rankOfRatio steps scale)

/-! ## Section 1: Decimals that are whole numbers -/

section Whole

variable {k n : Nat} (tie : Tie)

/-- A whole number written out in full ends in as many zeros as it has places. -/
theorem exact_of_whole (h : steps k = n * scale) :
    ∃ p : Nat, exact k = ⟨n * Nat.pow 10 p, -p⟩ := by
  refine ⟨1074 - Binary64.doublings k, ?_⟩
  have hvalue := exact_value k
  have hnumerator : (exact k).numerator = (exact k).coefficient := by
    unfold numerator exact
    simp only [Int.toNat_neg_natCast]
    exact Nat.mul_one _
  have hdenominator : (exact k).denominator = Nat.pow 10 (1074 - Binary64.doublings k) := by
    unfold denominator exact
    simp only [Int.neg_neg, Int.toNat_natCast]
  rw [hnumerator, hdenominator, h, Nat.mul_right_comm] at hvalue
  have hcoefficient := Nat.eq_of_mul_eq_mul_right Binary64.scale_pos hvalue
  rw [← hcoefficient]
  rfl

/-- A whole number without places converts to its magnitude. -/
theorem rank_whole (hk : k < rankBound) (h : steps k = n * scale) : rank ⟨n, 0⟩ = k := by
  apply rank_eq_of_value hk
  rw [h]
  exact (Nat.mul_right_comm n (Nat.pow 10 0) scale)

/-- A whole number below `2 ^ 53` that converts to a magnitude is this magnitude. -/
theorem steps_of_rank_eq {m t : Nat} (hk : k < rankBound) (hk0 : k ≠ 0)
    (hm : m * Nat.pow 10 t < 2 * binade) (hrank : rank ⟨m, t⟩ = k) :
    steps k = m * Nat.pow 10 t * scale := by
  obtain ⟨_, _, hratio⟩ := rank_eq_rankOfRatio (d := ⟨m, t⟩) (by rw [hrank]; exact hk0)
    (by rw [hrank]; exact hk)
  have hnumerator : numerator ⟨m, t⟩ = m * Nat.pow 10 t := rfl
  have hdenominator : denominator ⟨m, t⟩ = 1 := by
    unfold denominator
    rw [Int.toNat_neg_natCast, Nat.pow_eq, Nat.pow_zero]
  rw [hrank, hnumerator, hdenominator] at hratio
  rw [hratio, Binary64.steps_rankOfRatio_one hm]

/-- A cut behind the point leaves the whole number. -/
theorem cutAt?_places (hk : k < rankBound) (h : steps k = n * scale) (p : Nat) :
    cutAt? tie k ⟨n * Nat.pow 10 p, -p⟩ p = some ⟨n, 0⟩ := by
  have hunit : 0 < Nat.pow 10 p := Nat.pow_pos (by decide)
  have hhalf : ¬ 0 = Nat.pow 10 p := Nat.ne_of_lt hunit
  unfold cutAt?
  simp only [Nat.mul_div_cancel n hunit, Nat.mul_mod_left, Nat.mul_zero, if_neg hhalf,
    Nat.not_lt_zero, decide_false, Bool.false_eq_true, if_false, Int.add_left_neg,
    rank_whole hk h, if_true]

/-- A cut in front of the point is taken only if it cuts zeros off. -/
theorem of_cutAt?_whole (hk : k < rankBound) (hn : n ≠ 0) (hlt : n < binade)
    (h : steps k = n * scale) {p t : Nat} (ht : Nat.pow 10 t ≤ n) {d : Decimal}
    (hcut : cutAt? tie k ⟨n * Nat.pow 10 p, -p⟩ (p + t) = some d) :
    ∃ m : Nat, d = ⟨m, t⟩ ∧ m * Nat.pow 10 t = n := by
  have hk0 : k ≠ 0 := by
    intro hzero
    rw [Binary64.steps_eq_zero_iff.mpr hzero] at h
    exact hn ((Nat.mul_eq_zero.mp h.symm).resolve_right Binary64.scale_pos.ne')
  have hexponent : -(p : Int) + ((p + t : Nat) : Int) = t := by omega
  have hdiv : n * Nat.pow 10 p / Nat.pow 10 (p + t) = n / Nat.pow 10 t := by
    simp only [Nat.pow_eq, Nat.pow_add]
    rw [Nat.mul_comm, Nat.mul_div_mul_left _ _ (Nat.pow_pos (by decide))]
  have hfloor := Nat.div_mul_le_self n (Nat.pow 10 t)
  obtain ⟨hrank, hd⟩ := of_cutAt?_eq_some hcut
  rw [hdiv, hexponent] at hd
  -- both neighbours are below `2 ^ 53`
  obtain ⟨m, rfl, hm⟩ : ∃ m : Nat, d = ⟨m, t⟩ ∧ m * Nat.pow 10 t < 2 * binade := by
    rcases hd with rfl | rfl
    · exact ⟨_, rfl, by omega⟩
    · refine ⟨_, rfl, ?_⟩
      rw [Nat.succ_mul]
      omega
  have hvalue := steps_of_rank_eq hk hk0 hm hrank
  rw [h] at hvalue
  exact ⟨m, rfl, (Nat.eq_of_mul_eq_mul_right Binary64.scale_pos hvalue).symm⟩

/-- The shortest decimal of a whole number has just its value. -/
theorem shortest_of_whole (hk : k < rankBound) (hn : n ≠ 0) (hlt : n < binade)
    (h : steps k = n * scale) :
    ∃ m t : Nat, shortest tie k = ⟨m, t⟩ ∧ m * Nat.pow 10 t = n := by
  obtain ⟨p, hexact⟩ := exact_of_whole h
  have hpos := length_digitsOf_pos n
  have hwidth : (digitsOf (n * Nat.pow 10 p)).length = (digitsOf n).length + p := by
    rw [digitsOf_mul_pow hn, List.length_append, List.length_replicate]
  have hfew : (digitsOf n).length ≤ 16 :=
    (Nat.length_toDigits_le_iff (by decide) (by decide)).mpr (Nat.lt_trans hlt (by decide))
  unfold shortest
  simp only [hexact, hwidth]
  -- the search ends at the latest where all digits in front of the point are kept
  have hlast : cutAt? tie k ⟨n * Nat.pow 10 p, -p⟩
      ((digitsOf n).length + p - ((digitsOf n).length - 1 + 1)) = some ⟨n, 0⟩ := by
    rw [Nat.sub_add_cancel hpos, Nat.add_sub_cancel_left]
    exact cutAt?_places tie hk h p
  cases hfound : (List.range 17).findSome? fun i =>
      cutAt? tie k ⟨n * Nat.pow 10 p, -p⟩ ((digitsOf n).length + p - (i + 1)) with
  | none =>
    rw [List.findSome?_eq_none_iff] at hfound
    have hnone := hfound ((digitsOf n).length - 1) (List.mem_range.mpr (by omega))
    cases hlast.symm.trans hnone
  | some d =>
    obtain ⟨i, hcut, hbefore⟩ := findSome?_range_eq_some hfound
    have hi : i ≤ (digitsOf n).length - 1 := by
      refine Nat.le_of_not_lt fun hgt => ?_
      cases hlast.symm.trans (hbefore _ hgt)
    have hsplit : (digitsOf n).length + p - (i + 1) = p + ((digitsOf n).length - (i + 1)) := by
      omega
    have hpow : Nat.pow 10 ((digitsOf n).length - (i + 1)) ≤ n :=
      Nat.le_trans (Nat.pow_le_pow_right (by decide) (by omega)) (pow_length_sub_one_le hn)
    rw [hsplit] at hcut
    obtain ⟨m, rfl, hm⟩ := of_cutAt?_whole tie hk hn hlt h hpow hcut
    exact ⟨m, _, rfl, hm⟩

/-- The significant digits of the shortest decimal of a whole number, with as many zeros as
    the exponent says, are the digits of the number. -/
theorem significant_shortest_of_whole (hk : k < rankBound) (hn : n ≠ 0) (hlt : n < binade)
    (h : steps k = n * scale) :
    ∃ zeros : Nat, (shortest tie k).significant.2 = zeros ∧
      (shortest tie k).significant.1 ++ List.replicate zeros '0' = digitsOf n := by
  obtain ⟨m, t, hshortest, hm⟩ := shortest_of_whole tie hk hn hlt h
  have hm0 : m ≠ 0 := by
    rintro rfl
    exact hn (hm.symm.trans (Nat.zero_mul _))
  obtain ⟨j, hdigits, hexponent⟩ := digitsOf_eq_significant ⟨m, t⟩
  refine ⟨j + t, ?_, ?_⟩
  · rw [hshortest, hexponent, Int.add_comm]
    rfl
  -- the zeros that were cut off come back with the exponent
  · calc (shortest tie k).significant.1 ++ List.replicate (j + t) '0'
        = (significant ⟨m, t⟩).1 ++ List.replicate j '0' ++ List.replicate t '0' := by
          rw [hshortest, List.append_assoc, List.replicate_append_replicate]
      _ = digitsOf m ++ List.replicate t '0' := by rw [← hdigits]
      _ = digitsOf n := by rw [← digitsOf_mul_pow hm0, hm]

end Whole

end Decimal

namespace Binary64

/-! ## Section 2: Their text -/

section Whole

variable {k n : Nat} (hk : k < rankBound) (hlt : n < binade) (h : steps k = n * scale)

include hk hlt h

/-- A whole number below `2 ^ 52` is written as its digits. -/
theorem magnitudeText_whole : magnitudeText .plain k = Decimal.digitsOf n := by
  by_cases hn : n = 0
  · rw [hn, Nat.zero_mul, steps_eq_zero_iff] at h
    rw [h, hn, magnitudeText, if_pos rfl]
    rfl
  have hk0 : k ≠ 0 := by
    rintro rfl
    exact hn ((Nat.mul_eq_zero.mp h.symm).resolve_right scale_pos.ne')
  obtain ⟨zeros, hexponent, hdigits⟩ :=
    Decimal.significant_shortest_of_whole NumeralStyle.plain.tie hk hn hlt h
  unfold magnitudeText
  rw [if_neg hk0]
  simp only [Decimal.write_plain, hexponent]
  exact hdigits

end Whole

/-! ## Section 3: Whole numbers of 32 bits -/

/-- The largest whole number of 32 bits. -/
def wordLimit : Nat := 4294967295

/-- A whole number between zero and the largest one of 32 bits; negative zero is one. -/
def isWord (x : Binary64) : Bool := x.isWhole && !x.isNegative && !x.exceeds wordLimit

/-- A whole number of 32 bits is a magnitude of so many ones; only zero has a minus. -/
theorem exists_of_isWord {x : Binary64} (h : x.isWord) :
    ∃ (negative : Bool) (k : Fin rankBound) (n : Nat), x = .finite negative k ∧
      steps k = n * scale ∧ n ≤ wordLimit := by
  unfold isWord at h
  simp only [Bool.and_eq_true, Bool.not_eq_true'] at h
  obtain ⟨⟨hwhole, hsign⟩, hlimit⟩ := h
  cases x with
  | nan => cases hwhole
  | infinite negative => cases hwhole
  | finite negative k =>
    simp only [isWhole, beq_iff_eq] at hwhole
    have hvalue : steps k = steps k / scale * scale :=
      (Nat.div_mul_cancel (Nat.dvd_of_mod_eq_zero hwhole)).symm
    refine ⟨negative, k, steps k / scale, rfl, hvalue, ?_⟩
    cases negative with
    | true =>
      -- only zero may have a minus
      have hzero : k.val = 0 := by simpa [isNegative] using hsign
      have hsteps : steps k = 0 := steps_eq_zero_iff.mpr hzero
      rw [hsteps, Nat.zero_div]
      exact Nat.zero_le _
    | false =>
      simp only [exceeds, Bool.not_false, Bool.true_and, decide_eq_false_iff_not,
        Nat.not_lt] at hlimit
      refine Nat.le_of_mul_le_mul_right ?_ scale_pos
      rw [← hvalue]
      exact hlimit

end Binary64

end SimSweep
