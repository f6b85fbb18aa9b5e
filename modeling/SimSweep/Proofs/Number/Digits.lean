import SimSweep.Proofs.Number.Nearness
import SimSweep.Proofs.Number.RoundTrip

/-! # Seventeen digits suffice

    A magnitude written out in full and cut off behind seventeen digits, to the nearer of
    the two neighbours there, is nearer to the magnitude than any other magnitude is. So
    the search for the shortest decimal never ends without one, and no shortest decimal
    has more digits.
-/

namespace SimSweep.Decimal

open Binary64 (rankOfRatio ratio steps scale)

variable {k : Nat}

/-- A decimal that is very near a magnitude converts to it. -/
theorem rank_eq_of_near {d : Decimal} (hk : k < rankBound) (hk0 : k ≠ 0)
    (h : |ratio d.numerator d.denominator - steps k| < steps k / 2 ^ 54) : d.rank = k := by
  obtain ⟨hlo, hhi⟩ := abs_lt.mp h
  have hpos : (0 : ℚ) < d.denominator := Nat.cast_pos.mpr d.denominator_pos
  have hmul := Binary64.ratio_mul (n := d.numerator) d.denominator_pos
  have hsteps : (0 : ℚ) < steps k :=
    Nat.cast_pos.mpr (Nat.pos_of_ne_zero fun hs => hk0 (Binary64.steps_eq_zero_iff.mp hs))
  have hbelow : d.numerator * scale ≤ 2 * (steps k * d.denominator) := by
    have hle : ratio d.numerator d.denominator ≤ 2 * steps k := by linarith
    have hscaled := mul_le_mul_of_nonneg_right hle hpos.le
    rw [hmul, mul_assoc] at hscaled
    exact_mod_cast hscaled
  have habove : steps k * d.denominator ≤ 2 * (d.numerator * scale) := by
    have hle : (steps k : ℚ) ≤ 2 * ratio d.numerator d.denominator := by linarith
    have hscaled := mul_le_mul_of_nonneg_right hle hpos.le
    rw [mul_assoc, hmul] at hscaled
    exact_mod_cast hscaled
  have hc : d.coefficient ≠ 0 := by
    intro hc
    rw [numerator_eq_zero_iff.mpr hc, Nat.zero_mul, Nat.mul_zero] at habove
    have hproduct : 0 < steps k * d.denominator :=
      Nat.mul_pos (Nat.cast_pos.mp hsteps) d.denominator_pos
    omega
  have hle := point_le hk hc hbelow
  have hge := le_point hk0 habove
  rw [rank_eq, if_neg hc, if_neg (Int.not_lt.mpr hle), if_neg (Int.not_lt.mpr hge)]
  exact Binary64.rankOfRatio_eq_of_near d.denominator_pos h

/-- A neighbour that is near enough is found, whichever way a tie goes. -/
theorem cutAt?_ne_none {tie : Tie} {e : Decimal} {cut : Nat}
    (h : rank ⟨e.coefficient / Nat.pow 10 cut, e.exponent + cut⟩ = k ∨
      rank ⟨e.coefficient / Nat.pow 10 cut + 1, e.exponent + cut⟩ = k) :
    cutAt? tie k e cut ≠ none := by
  unfold cutAt?
  extract_lets unit lower upper rest prefersUpper
  split_ifs <;> dsimp only <;> split_ifs <;> simp_all [lower, upper, unit]

/-- With another coefficient the value changes in proportion. -/
theorem ratio_mul_coefficient (m k : Nat) :
    ratio (mk m (exact k).exponent).numerator (mk m (exact k).exponent).denominator *
      (exact k).coefficient = m * steps k := by
  have hpos : ((exact k).denominator : ℚ) ≠ 0 :=
    Nat.cast_ne_zero.mpr (exact k).denominator_pos.ne'
  have hvalue : ((exact k).numerator * scale : ℚ) = steps k * (exact k).denominator := by
    exact_mod_cast exact_value k
  have hnumerator : ∀ c : Nat, ((mk c (exact k).exponent).numerator : ℚ) =
      c * (Nat.pow 10 (exact k).exponent.toNat : Nat) := fun c => Nat.cast_mul _ _
  have hdenominator : (mk m (exact k).exponent).denominator = (exact k).denominator := rfl
  rw [hnumerator (exact k).coefficient] at hvalue
  rw [ratio, hnumerator, hdenominator, div_mul_eq_mul_div, div_eq_iff hpos, mul_assoc (m : ℚ),
    mul_assoc (m : ℚ), mul_assoc (m : ℚ), ← hvalue]
  ring

/-- A coefficient that is changed by one part in `2 * 10 ^ 16` at most leaves the rank. -/
theorem rank_eq_of_coefficient (hk : k < rankBound) (hk0 : k ≠ 0) {m : Nat}
    (h : 2 * 10 ^ 16 * |(m : ℚ) - (exact k).coefficient| ≤ (exact k).coefficient) :
    rank ⟨m, (exact k).exponent⟩ = k := by
  let c := (exact k).coefficient
  let d : Decimal := ⟨m, (exact k).exponent⟩
  have hsteps : (0 : ℚ) < steps k :=
    Nat.cast_pos.mpr (Nat.pos_of_ne_zero fun hs => hk0 (Binary64.steps_eq_zero_iff.mp hs))
  have hc : (0 : ℚ) < c := by
    refine Nat.cast_pos.mpr (Nat.pos_of_ne_zero fun hc => hk0 ?_)
    rw [← rank_exact hk, rank_eq, if_pos hc]
  have hratio : ratio d.numerator d.denominator * c = m * steps k := ratio_mul_coefficient m k
  apply rank_eq_of_near hk hk0
  have habs : |ratio d.numerator d.denominator - steps k| * c = |(m : ℚ) - c| * steps k := by
    calc |ratio d.numerator d.denominator - steps k| * c
        = |(ratio d.numerator d.denominator - steps k) * c| := by rw [abs_mul, abs_of_pos hc]
      _ = |((m : ℚ) - c) * steps k| := by
          rw [sub_mul, hratio, sub_mul, mul_comm (c : ℚ)]
      _ = |(m : ℚ) - c| * steps k := by rw [abs_mul, abs_of_pos hsteps]
  have hscaled : |(m : ℚ) - c| * steps k ≤ steps k / (2 * 10 ^ 16) * c := by
    have := mul_le_mul_of_nonneg_right h hsteps.le
    linarith
  rw [← habs] at hscaled
  calc |ratio d.numerator d.denominator - steps k| ≤ steps k / (2 * 10 ^ 16) :=
        le_of_mul_le_mul_right hscaled hc
    _ < steps k / 2 ^ 54 := div_lt_div_of_pos_left hsteps (by norm_num) (by norm_num)

/-- One of the two neighbours behind seventeen digits converts back. -/
theorem rank_cut (hk : k < rankBound) (hk0 : k ≠ 0) {cut : Nat}
    (h : Nat.pow 10 16 * Nat.pow 10 cut ≤ (exact k).coefficient) :
    rank ⟨(exact k).coefficient / Nat.pow 10 cut, (exact k).exponent + cut⟩ = k ∨
      rank ⟨(exact k).coefficient / Nat.pow 10 cut + 1, (exact k).exponent + cut⟩ = k := by
  let c := (exact k).coefficient
  let unit := Nat.pow 10 cut
  have hsplit : c = c / unit * unit + c % unit := (Nat.div_add_mod' c unit).symm
  have hunit : 0 < unit := Nat.pow_pos (by decide)
  have hmod := Nat.mod_lt c hunit
  -- half of the last place that is kept is one part in `2 * 10 ^ 16` or less
  have hnear : ∀ m : Nat, 2 * m ≤ 2 * c + unit → 2 * c ≤ 2 * m + unit →
      rank ⟨m, (exact k).exponent⟩ = k := by
    intro m hhi hlo
    apply rank_eq_of_coefficient hk hk0
    have hhi' : 2 * (m : ℚ) ≤ 2 * c + unit := by exact_mod_cast hhi
    have hlo' : 2 * (c : ℚ) ≤ 2 * m + unit := by exact_mod_cast hlo
    have hdigits : (10 : ℚ) ^ 16 * unit ≤ c := by exact_mod_cast h
    have habs : |(m : ℚ) - c| ≤ unit / 2 := abs_le.mpr ⟨by linarith, by linarith⟩
    linarith
  rw [← rank_mul_pow, ← rank_mul_pow]
  by_cases hhalf : 2 * (c % unit) ≤ unit
  · exact .inl (hnear (c / unit * unit) (by omega) (by omega))
  · have hnext : (c / unit + 1) * unit = c / unit * unit + unit := by ring
    exact .inr (hnear ((c / unit + 1) * unit) (by omega) (by omega))

/-- The search behind seventeen digits succeeds at the latest. -/
theorem cutAt?_seventeen (tie : Tie) (hk : k < rankBound) :
    cutAt? tie k (exact k) ((digitsOf (exact k).coefficient).length - 17) ≠ none := by
  let c := (exact k).coefficient
  let width := (digitsOf c).length
  apply cutAt?_ne_none
  by_cases hwidth : width ≤ 17
  · -- there is nothing to cut off
    left
    have hcut : width - 17 = 0 := Nat.sub_eq_zero_of_le hwidth
    show rank ⟨c / Nat.pow 10 (width - 17), (exact k).exponent + (width - 17 : Nat)⟩ = k
    rw [hcut, Nat.pow_eq, Nat.pow_zero, Nat.div_one, Int.natCast_zero, Int.add_zero]
    exact rank_exact hk
  · have hc : c ≠ 0 := by
      intro hc
      refine hwidth ?_
      show (digitsOf c).length ≤ 17
      rw [hc]
      decide
    have hk0 : k ≠ 0 := by
      rintro rfl
      have hvalue := exact_value 0
      rw [Binary64.steps_eq_zero_iff.mpr rfl, Nat.zero_mul, Nat.mul_eq_zero] at hvalue
      exact hc (numerator_eq_zero_iff.mp (hvalue.resolve_right Binary64.scale_pos.ne'))
    apply rank_cut hk hk0
    calc Nat.pow 10 16 * Nat.pow 10 (width - 17) = Nat.pow 10 (width - 1) := by
          show 10 ^ 16 * 10 ^ (width - 17) = 10 ^ (width - 1)
          rw [← Nat.pow_add]
          congr 1
          omega
      _ ≤ c := pow_length_sub_one_le hc

/-- No shortest decimal has more than seventeen digits, but for a one with zeros. -/
theorem coefficient_shortest_le (tie : Tie) (hk : k < rankBound) :
    (shortest tie k).coefficient ≤ Nat.pow 10 17 := by
  let c := (exact k).coefficient
  let width := (digitsOf c).length
  unfold shortest
  simp only []
  cases hfound : (List.range 17).findSome? fun i => cutAt? tie k (exact k) (width - (i + 1)) with
  | none =>
    have hnone := List.findSome?_eq_none_iff.mp hfound 16 (List.mem_range.mpr (by decide))
    exact absurd hnone (cutAt?_seventeen tie hk)
  | some d =>
    obtain ⟨i, hi, hcut⟩ := List.exists_of_findSome?_eq_some hfound
    have hlt : c / Nat.pow 10 (width - (i + 1)) < Nat.pow 10 17 := by
      refine (Nat.div_lt_iff_lt_mul (Nat.pow_pos (by decide))).mpr ?_
      calc c < Nat.pow 10 width := lt_pow_length c
        _ ≤ 10 ^ (17 + (width - (i + 1))) := by
            refine Nat.pow_le_pow_right (by decide) ?_
            have := List.mem_range.mp hi
            omega
        _ = Nat.pow 10 17 * Nat.pow 10 (width - (i + 1)) := Nat.pow_add 10 17 _
    rcases (of_cutAt?_eq_some hcut).2 with rfl | rfl
    · exact Nat.le_of_lt hlt
    · exact hlt

end SimSweep.Decimal
