import SimSweep.Proofs.Number.Decimal

/-! # How far rounding goes

    Rounding moves a ratio by at most half of what its two neighbours are apart. So the
    rank of a ratio and the ratio itself can be compared with a rank and with the half
    way to the next rank (`rankOfRatio_le`, `le_of_rankOfRatio_le`), and a ratio that is
    not below the smallest normal magnitude moves by one part in `2 ^ 53` at most. A
    product of two rounded factors, rounded once more, is therefore still finite if its
    value is that of the third largest magnitude or less (`StaysFinite`).
-/

namespace SimSweep

/-! ## Section 1: The nearest whole number -/

theorem divNearest_mul_le (n d : Nat) : 2 * (divNearest n d * d) ≤ 2 * n + d := by
  have hsplit := Nat.div_add_mod' n d
  unfold divNearest
  dsimp only
  split_ifs with hlow hhigh
  · omega
  · rw [Nat.add_mul, Nat.one_mul]
    omega
  · have hhalf : n % d + n % d = d := by omega
    rcases Nat.mod_two_eq_zero_or_one (n / d) with h | h
    · rw [h, Nat.add_zero]
      omega
    · rw [h, Nat.add_mul, Nat.one_mul]
      omega

theorem le_divNearest_mul (n : Nat) {d : Nat} (hd : 0 < d) :
    2 * n ≤ 2 * (divNearest n d * d) + d := by
  have hsplit := Nat.div_add_mod' n d
  have hmod := Nat.mod_lt n hd
  unfold divNearest
  dsimp only
  split_ifs with hlow hhigh
  · omega
  · rw [Nat.add_mul, Nat.one_mul]
    omega
  · rcases Nat.mod_two_eq_zero_or_one (n / d) with h | h
    · rw [h, Nat.add_zero]
      omega
    · rw [h, Nat.add_mul, Nat.one_mul]
      omega

namespace Binary64

/-! ## Section 2: The rank of a ratio and its neighbours -/

/-- A ratio is rounded to the significand `m` after `e` doublings; the significand may be
    the one with which the next doubling starts. -/
structure Rounds (n d e m : Nat) : Prop where
  rank : rankOfRatio n d = e * binade + m
  le : m ≤ 2 * binade
  full : e ≠ 0 → binade ≤ m
  /-- The ratio is at most half a unit above what it is rounded to. -/
  above : 2 * (n * scale) ≤ (2 * m + 1) * (d * Nat.pow 2 e)
  /-- The ratio is at most half a unit below what it is rounded to. -/
  below : 2 * m * (d * Nat.pow 2 e) ≤ 2 * (n * scale) + d * Nat.pow 2 e
  /-- There are no more doublings than the ratio needs. -/
  least : e ≠ 0 → binade * (d * Nat.pow 2 e) ≤ n * scale

/-- An amount of as many units as a binade has has a significand that is not smaller. -/
theorem binade_le_of_le {s m unit : Nat} (hunit : 0 < unit) (hleast : binade * unit ≤ s)
    (habove : 2 * s ≤ (2 * m + 1) * unit) : binade ≤ m := by
  have hdouble : 2 * binade * unit ≤ (2 * m + 1) * unit := by
    rw [Nat.mul_assoc]
    exact Nat.le_trans (Nat.mul_le_mul_left 2 hleast) habove
  have := Nat.le_of_mul_le_mul_right hdouble hunit
  omega

theorem exists_rounds (n : Nat) {d : Nat} (hd : 0 < d) : ∃ e m, Rounds n d e m := by
  let s := n * scale
  let e := (s / d).log2 - 52
  let unit := d * Nat.pow 2 e
  have hunit : 0 < unit := Nat.mul_pos hd (Nat.two_pow_pos e)
  have hbelow := divNearest_mul_le s unit
  have habove : 2 * s ≤ (2 * divNearest s unit + 1) * unit := by
    rw [Nat.add_mul, Nat.one_mul, Nat.mul_assoc]
    exact le_divNearest_mul s hunit
  -- the ratio has `53` bits before the doublings, or fewer where there are none
  have hlt : s < 2 * binade * unit := by
    have hbits : (s / d).log2 + 1 ≤ 53 + e := by omega
    have hquotient : s / d < Nat.pow 2 (53 + e) :=
      Nat.lt_of_lt_of_le Nat.lt_log2_self (Nat.pow_le_pow_right (by decide) hbits)
    have hproduct := (Nat.div_lt_iff_lt_mul hd).mp hquotient
    have hpow : Nat.pow 2 (53 + e) * d = 2 * binade * unit := by
      show 2 ^ (53 + e) * d = 2 * 2 ^ 52 * (d * 2 ^ e)
      rw [Nat.pow_add]
      ring
    rw [← hpow]
    exact hproduct
  have hleast : e ≠ 0 → binade * unit ≤ s := by
    intro he
    have hbits : (s / d).log2 = 52 + e := by omega
    have hne : s / d ≠ 0 := by
      intro hzero
      rw [hzero, Nat.log2_zero] at hbits
      omega
    have hquotient := Nat.log2_self_le hne
    rw [hbits, Nat.le_div_iff_mul_le hd] at hquotient
    have hpow : 2 ^ (52 + e) * d = binade * unit := by
      show 2 ^ (52 + e) * d = 2 ^ 52 * (d * 2 ^ e)
      rw [Nat.pow_add]
      ring
    rw [← hpow]
    exact hquotient
  refine ⟨e, divNearest s unit, rfl, ?_, fun he => binade_le_of_le hunit (hleast he) habove,
    habove, ?_, hleast⟩
  · have hdouble : 2 * divNearest s unit * unit < (2 * (2 * binade) + 1) * unit := by
      rw [Nat.mul_assoc, Nat.add_mul, Nat.one_mul, Nat.mul_assoc 2 (2 * binade)]
      omega
    have := Nat.lt_of_mul_lt_mul_right hdouble
    omega
  · rw [Nat.mul_assoc]
    exact hbelow

/-- The magnitude of a rank that is written with its doublings. -/
theorem steps_mul_add {e m : Nat} (hm : m ≤ 2 * binade) (hfull : e ≠ 0 → binade ≤ m) :
    steps (e * binade + m) = m * Nat.pow 2 e := by
  rcases Nat.lt_or_eq_of_le hm with hlt | rfl
  · obtain ⟨hd, hs⟩ := doublings_mul_add hlt hfull
    unfold steps
    rw [hd, hs]
  · -- here the next doubling starts
    have hnext : e * binade + 2 * binade = (e + 1) * binade + binade := by ring
    have hsmall : binade < 2 * binade := by decide
    obtain ⟨hd, hs⟩ := doublings_mul_add (e := e + 1) hsmall fun _ => Nat.le_refl binade
    unfold steps
    rw [hnext, hd, hs]
    show binade * 2 ^ (e + 1) = 2 * binade * 2 ^ e
    rw [Nat.pow_succ]
    ring

/-- One more doubling at least doubles the unit. -/
theorem two_mul_unit_le (d : Nat) {e e' : Nat} (h : e < e') :
    2 * (d * Nat.pow 2 e) ≤ d * Nat.pow 2 e' := by
  have hpow : Nat.pow 2 (e + 1) ≤ Nat.pow 2 e' := Nat.pow_le_pow_right (by decide) h
  calc 2 * (d * 2 ^ e) = d * 2 ^ (e + 1) := by
        rw [Nat.pow_succ]
        ring
    _ ≤ d * 2 ^ e' := Nat.mul_le_mul_left d hpow

section Thresholds

variable {n d e m : Nat} (hd : 0 < d) (hfull : e ≠ 0 → binade ≤ m) (hhi : m < 2 * binade)

include hd hfull hhi

/-- Below the half way to the next rank a ratio is rounded to the rank or a lower one. -/
theorem rankOfRatio_le (h : 2 * (n * scale) < (2 * m + 1) * (d * Nat.pow 2 e)) :
    rankOfRatio n d ≤ e * binade + m := by
  obtain ⟨e', m', hrounds⟩ := exists_rounds n hd
  have hunit : 0 < d * Nat.pow 2 e := Nat.mul_pos hd (Nat.two_pow_pos e)
  rw [hrounds.rank]
  rcases Nat.lt_trichotomy e' e with hlt | rfl | hgt
  · have hbinades : (e' + 1) * binade ≤ e * binade := Nat.mul_le_mul_right binade hlt
    have hlo := hfull (by omega)
    have hle := hrounds.le
    rw [Nat.add_mul, Nat.one_mul] at hbinades
    omega
  · have hbelow := hrounds.below
    have hdouble : 2 * m' * (d * Nat.pow 2 e') < (2 * m + 2) * (d * Nat.pow 2 e') := by
      rw [Nat.add_mul] at h ⊢
      omega
    have := Nat.lt_of_mul_lt_mul_right hdouble
    omega
  · -- the ratio would be a binade higher than the threshold
    have hleast := hrounds.least (by omega)
    have hdouble := Nat.mul_le_mul_left binade (two_mul_unit_le d hgt)
    have hlt : 4 * binade * (d * Nat.pow 2 e) < (2 * m + 1) * (d * Nat.pow 2 e) := by
      calc 4 * binade * (d * Nat.pow 2 e)
          = 2 * (binade * (2 * (d * Nat.pow 2 e))) := by ring
        _ ≤ 2 * (n * scale) := Nat.mul_le_mul_left 2 (Nat.le_trans hdouble hleast)
        _ < (2 * m + 1) * (d * Nat.pow 2 e) := h
    have := Nat.lt_of_mul_lt_mul_right hlt
    omega

/-- A ratio that is rounded to a rank or a lower one is not beyond the half way to the
    next rank. -/
theorem le_of_rankOfRatio_le (h : rankOfRatio n d ≤ e * binade + m) :
    2 * (n * scale) ≤ (2 * m + 1) * (d * Nat.pow 2 e) := by
  obtain ⟨e', m', hrounds⟩ := exists_rounds n hd
  have habove := hrounds.above
  rw [hrounds.rank] at h
  rcases Nat.lt_trichotomy e' e with hlt | rfl | hgt
  · have hle : 2 * m' + 1 ≤ 2 * (2 * binade + 1) := by
      have := hrounds.le
      omega
    have hm : 2 * binade + 1 ≤ 2 * m + 1 :=
      Nat.add_le_add_right (Nat.mul_le_mul_left 2 (hfull (by omega))) 1
    calc 2 * (n * scale) ≤ (2 * m' + 1) * (d * Nat.pow 2 e') := habove
      _ ≤ 2 * (2 * binade + 1) * (d * Nat.pow 2 e') := Nat.mul_le_mul_right _ hle
      _ = (2 * binade + 1) * (2 * (d * Nat.pow 2 e')) := by ring
      _ ≤ (2 * binade + 1) * (d * Nat.pow 2 e) :=
          Nat.mul_le_mul_left _ (two_mul_unit_le d hlt)
      _ ≤ (2 * m + 1) * (d * Nat.pow 2 e) := Nat.mul_le_mul_right _ hm
  · have hle : 2 * m' + 1 ≤ 2 * m + 1 := by omega
    exact Nat.le_trans habove (Nat.mul_le_mul_right _ hle)
  · have hbinades : (e + 1) * binade ≤ e' * binade := Nat.mul_le_mul_right binade hgt
    have hfull := hrounds.full (by omega)
    rw [Nat.add_mul, Nat.one_mul] at hbinades
    omega

end Thresholds

section Ranks

variable {n d : Nat} (hd : 0 < d)

include hd

/-- The rank of a ratio tells a bound for the ratio. -/
theorem le_of_rankOfRatio :
    2 * (n * scale) ≤ (2 * significand (rankOfRatio n d) + 1) *
      (d * Nat.pow 2 (doublings (rankOfRatio n d))) :=
  le_of_rankOfRatio_le hd binade_le_significand (significand_lt _)
    (Nat.le_of_eq (doublings_mul_add_significand _).symm)

/-- A bound for a ratio, some units above a rank, is a bound for the rank of the ratio. -/
theorem rankOfRatio_le_add {r j : Nat} (hj : j ≤ binade)
    (h : 2 * (n * scale) < (2 * (significand r + j) + 1) * (d * Nat.pow 2 (doublings r))) :
    rankOfRatio n d ≤ r + j := by
  have hrank := doublings_mul_add_significand r
  have hsignificand := significand_lt r
  by_cases hlt : significand r + j < 2 * binade
  · have hle := rankOfRatio_le hd
      (fun he => Nat.le_trans (binade_le_significand he) (Nat.le_add_right _ j)) hlt h
    omega
  · -- the units above the next power of two are twice as large
    let m := significand r + j - binade
    have hunits : 2 * (significand r + j) + 1 ≤ (2 * m + 1) * 2 := by omega
    have hnext : 2 * (n * scale) < (2 * m + 1) * (d * Nat.pow 2 (doublings r + 1)) := by
      calc 2 * (n * scale)
          < (2 * (significand r + j) + 1) * (d * Nat.pow 2 (doublings r)) := h
        _ ≤ (2 * m + 1) * 2 * (d * Nat.pow 2 (doublings r)) := Nat.mul_le_mul_right _ hunits
        _ = (2 * m + 1) * (d * 2 ^ (doublings r + 1)) := by
            rw [Nat.pow_succ]
            show _ * (d * 2 ^ doublings r) = _
            ring
    have hle := rankOfRatio_le (m := m) hd (fun _ => by omega) (by omega) hnext
    have hbinade : (doublings r + 1) * binade = doublings r * binade + binade := by ring
    omega

end Ranks

/-! ## Section 3: Relative errors -/

/-- Rounding adds one part in `2 ^ 53` at most, unless the ratio is very small. -/
theorem steps_rankOfRatio_le {n d : Nat} (hd : 0 < d) (h : binade * d ≤ n * scale) :
    2 * binade * (steps (rankOfRatio n d) * d) ≤ (2 * binade + 1) * (n * scale) := by
  obtain ⟨e, m, hrounds⟩ := exists_rounds n hd
  have hleast : binade * (d * Nat.pow 2 e) ≤ n * scale := by
    by_cases he : e = 0
    · rw [he, Nat.pow_eq, Nat.pow_zero, Nat.mul_one]
      exact h
    · exact hrounds.least he
  rw [hrounds.rank, steps_mul_add hrounds.le hrounds.full]
  calc 2 * binade * (m * Nat.pow 2 e * d)
      = binade * (2 * m * (d * Nat.pow 2 e)) := by ring
    _ ≤ binade * (2 * (n * scale) + d * Nat.pow 2 e) := Nat.mul_le_mul_left _ hrounds.below
    _ = 2 * binade * (n * scale) + binade * (d * Nat.pow 2 e) := by ring
    _ ≤ 2 * binade * (n * scale) + n * scale := Nat.add_le_add_left hleast _
    _ = (2 * binade + 1) * (n * scale) := by ring

theorem rankOfRatio_zero : rankOfRatio 0 1 = 0 := by
  apply rankOfRatio_eq Nat.one_pos
  rw [Nat.zero_mul, steps_eq_zero_iff.mpr rfl, Nat.zero_mul]

/-- No whole number is very small. -/
theorem binade_le_mul_scale {n : Nat} (hn : n ≠ 0) : binade * 1 ≤ n * scale := by
  have hscale : binade ≤ scale := by
    rw [scale_eq]
    exact Nat.pow_le_pow_right (by decide) (by unfold stepBits; decide)
  rw [Nat.mul_one]
  exact Nat.le_trans hscale (Nat.le_mul_of_pos_left scale (Nat.pos_of_ne_zero hn))

/-- The same for whole numbers. -/
theorem steps_rankOfRatio_one_le (n : Nat) :
    2 * binade * steps (rankOfRatio n 1) ≤ (2 * binade + 1) * (n * scale) := by
  by_cases hn : n = 0
  · rw [hn, rankOfRatio_zero, steps_eq_zero_iff.mpr rfl, Nat.mul_zero]
    exact Nat.zero_le _
  · have h := steps_rankOfRatio_le Nat.one_pos (binade_le_mul_scale hn)
    rw [Nat.mul_one] at h
    exact h

/-- How often a step is doubled to get the unit of the largest magnitudes. -/
@[irreducible] def topDoublings : Nat := 2045

theorem rankBound_eq : rankBound = topDoublings * binade + 2 * binade := by
  unfold topDoublings
  rfl

/-- A ratio `n / d` that is not beyond the half way from the third largest magnitude to
    the second largest. -/
def StaysFinite (n d : Nat) : Prop :=
  2 * (n * scale) ≤ (2 * (2 * binade - 3) + 1) * (d * Nat.pow 2 topDoublings)

/-- Ratios that are rounded to the third largest magnitude or to a smaller one. -/
theorem staysFinite_of_rankOfRatio {n d : Nat} (hd : 0 < d) (h : rankOfRatio n d + 2 < rankBound) :
    StaysFinite n d := by
  apply le_of_rankOfRatio_le hd (fun _ => by decide) (by decide)
  rw [rankBound_eq] at h
  have hbinade : 3 ≤ 2 * binade := by decide
  omega

/-- Rounding two factors and their product adds less than what there is from the half way
    above the third largest magnitude to the half way above the largest. -/
theorem StaysFinite.rankOfProduct_lt {a b : Nat} (h : StaysFinite (a * b) 1) :
    rankOfProduct (rankOfRatio a 1) (rankOfRatio b 1) < rankBound := by
  unfold StaysFinite at h
  rw [Nat.one_mul] at h
  let A := steps (rankOfRatio a 1)
  let B := steps (rankOfRatio b 1)
  let top := Nat.pow 2 topDoublings
  have hA : 2 * binade * A ≤ (2 * binade + 1) * (a * scale) := steps_rankOfRatio_one_le a
  have hB : 2 * binade * B ≤ (2 * binade + 1) * (b * scale) := steps_rankOfRatio_one_le b
  have htop : 0 < scale * scale * top :=
    Nat.mul_pos (Nat.mul_pos scale_pos scale_pos) (Nat.two_pow_pos topDoublings)
  have hparts : (2 * binade + 1) * (2 * binade + 1) * (2 * (2 * binade - 3) + 1) <
      2 * binade * (2 * binade) * (2 * (2 * binade - 1) + 1) := by decide
  have hlt : 2 * binade * (2 * binade) * (2 * (A * B * scale)) <
      2 * binade * (2 * binade) * ((2 * (2 * binade - 1) + 1) * (scale * scale * top)) := by
    calc 2 * binade * (2 * binade) * (2 * (A * B * scale))
        = 2 * (2 * binade * A * (2 * binade * B)) * scale := by ring
      _ ≤ 2 * ((2 * binade + 1) * (a * scale) * ((2 * binade + 1) * (b * scale))) * scale :=
          Nat.mul_le_mul_right _ (Nat.mul_le_mul_left _ (Nat.mul_le_mul hA hB))
      _ = (2 * binade + 1) * (2 * binade + 1) * (scale * scale) * (2 * (a * b * scale)) := by
          ring
      _ ≤ (2 * binade + 1) * (2 * binade + 1) * (scale * scale) *
            ((2 * (2 * binade - 3) + 1) * top) := Nat.mul_le_mul_left _ h
      _ = (2 * binade + 1) * (2 * binade + 1) * (2 * (2 * binade - 3) + 1) *
            (scale * scale * top) := by ring
      _ < 2 * binade * (2 * binade) * (2 * (2 * binade - 1) + 1) * (scale * scale * top) :=
          Nat.mul_lt_mul_of_pos_right hparts htop
      _ = 2 * binade * (2 * binade) *
            ((2 * (2 * binade - 1) + 1) * (scale * scale * top)) := Nat.mul_assoc _ _ _
  have hrank : rankOfRatio (A * B) (scale * scale) ≤ topDoublings * binade + (2 * binade - 1) :=
    rankOfRatio_le (Nat.mul_pos scale_pos scale_pos) (fun _ => by decide) (by decide)
      (Nat.lt_of_mul_lt_mul_left hlt)
  have hlast : 2 * binade - 1 < 2 * binade := by decide
  rw [rankBound_eq]
  exact Nat.lt_of_le_of_lt hrank (Nat.add_lt_add_left hlast _)

/-- A power of ten that stays finite has at most 309 digits. -/
theorem StaysFinite.exponent_le {c e : Nat} (h : StaysFinite (c * Nat.pow 10 e) 1) (hc : c ≠ 0) :
    e ≤ 308 := by
  unfold StaysFinite at h
  rw [Nat.one_mul] at h
  -- a name keeps the powers from being worked out
  obtain ⟨k, hk⟩ : ∃ k, k = 8 := ⟨8, rfl⟩
  have hpow : Nat.pow 2 (128 * k) < Nat.pow 10 (13 + 37 * k) := by
    have hpart : 2 ^ 128 ≤ 35 * 10 ^ 37 := by decide
    have hrest : 35 ^ k < 10 ^ 13 := by
      rw [hk]
      decide
    calc 2 ^ (128 * k) = (2 ^ 128) ^ k := Nat.pow_mul 2 128 k
      _ ≤ (35 * 10 ^ 37) ^ k := Nat.pow_le_pow_left hpart k
      _ = 35 ^ k * 10 ^ (37 * k) := by rw [Nat.mul_pow, ← Nat.pow_mul]
      _ < 10 ^ 13 * 10 ^ (37 * k) :=
          Nat.mul_lt_mul_of_pos_right hrest (Nat.pow_pos (by decide))
      _ = 10 ^ (13 + 37 * k) := (Nat.pow_add 10 13 (37 * k)).symm
  have htop : 2 * (2 * binade - 3) + 1 < Nat.pow 2 54 := by decide
  have hunits : Nat.pow 2 54 * Nat.pow 2 topDoublings = 2 * scale * Nat.pow 2 (128 * k) := by
    have hcount : 54 + topDoublings = 1 + stepBits + 128 * k := by
      unfold topDoublings stepBits
      omega
    rw [scale_eq]
    simp only [Nat.pow_eq]
    calc 2 ^ 54 * 2 ^ topDoublings = 2 ^ (54 + topDoublings) := (Nat.pow_add 2 54 _).symm
      _ = 2 * 2 ^ stepBits * 2 ^ (128 * k) := by
          rw [hcount, Nat.pow_add, Nat.pow_add, Nat.pow_one]
  have hlt : 2 * scale * Nat.pow 10 e < 2 * scale * Nat.pow 10 (13 + 37 * k) := by
    calc 2 * scale * Nat.pow 10 e
        ≤ 2 * scale * (c * Nat.pow 10 e) :=
          Nat.mul_le_mul_left _ (Nat.le_mul_of_pos_left _ (Nat.pos_of_ne_zero hc))
      _ = 2 * (c * Nat.pow 10 e * scale) := by ring
      _ ≤ (2 * (2 * binade - 3) + 1) * Nat.pow 2 topDoublings := h
      _ ≤ Nat.pow 2 54 * Nat.pow 2 topDoublings :=
          Nat.mul_le_mul_right _ (Nat.le_of_lt htop)
      _ = 2 * scale * Nat.pow 2 (128 * k) := hunits
      _ < 2 * scale * Nat.pow 10 (13 + 37 * k) :=
          Nat.mul_lt_mul_of_pos_left hpow (Nat.mul_pos (by decide) scale_pos)
  have hexponent := (Nat.pow_lt_pow_iff_right (by decide)).mp (Nat.lt_of_mul_lt_mul_left hlt)
  omega

end Binary64

namespace Decimal

/-! ## Section 4: Decimals that stay finite -/

/-- Decimals that convert to the third largest magnitude or to a smaller one. -/
theorem staysFinite {d : Decimal} (hzero : d.rank ≠ 0) (htop : d.rank + 2 < rankBound) :
    Binary64.StaysFinite d.numerator d.denominator := by
  obtain ⟨_, _, hrank⟩ := rank_eq_rankOfRatio hzero (by omega)
  rw [hrank] at htop
  exact Binary64.staysFinite_of_rankOfRatio d.denominator_pos htop

end Decimal

end SimSweep
