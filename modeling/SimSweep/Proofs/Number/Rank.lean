import Mathlib.Tactic.Ring
import SimSweep.Number.Binary64

/-! # Ranks and the ratios they stand for

    Rounding takes a ratio to the rank of the nearest magnitude. Two facts about it
    carry everything else: the result depends on the value of the ratio only, not on
    the two numbers that make it up, and a ratio that is a magnitude is rounded to the
    rank of just this magnitude. So a rank can be recovered from any way of writing its
    magnitude as a ratio, and whole numbers below `2 ^ 53` are never rounded at all.
-/

namespace SimSweep

/-! ## Section 1: The nearest whole number -/

theorem divNearest_mul_left (q : Nat) {d : Nat} (hd : 0 < d) : divNearest (q * d) d = q := by
  unfold divNearest
  simp [Nat.mul_div_cancel q hd, hd]

/-- A factor that numerator and denominator share does not matter. -/
theorem divNearest_mul_mul (n d : Nat) {c : Nat} (hc : 0 < c) :
    divNearest (n * c) (d * c) = divNearest n d := by
  have hlow : 2 * (n % d * c) < d * c ↔ 2 * (n % d) < d := by
    rw [← Nat.mul_assoc]
    exact Nat.mul_lt_mul_right hc
  have hhigh : d * c < 2 * (n % d * c) ↔ d < 2 * (n % d) := by
    rw [← Nat.mul_assoc]
    exact Nat.mul_lt_mul_right hc
  unfold divNearest
  simp only [Nat.mul_div_mul_right n d hc, Nat.mul_mod_mul_right, hlow, hhigh]

namespace Binary64

theorem binade_pos : 0 < binade := by decide

/-- How often one is halved to get a step. -/
@[irreducible] def stepBits : Nat := 1074

theorem scale_eq : scale = Nat.pow 2 stepBits := by
  delta scale
  rw [stepBits]

theorem scale_pos : 0 < scale := by
  rw [scale_eq]
  exact Nat.two_pow_pos stepBits

/-- Each doubling is one more bit. -/
theorem log2_mul_pow {m : Nat} (hm : m ≠ 0) (e : Nat) : (m * Nat.pow 2 e).log2 = m.log2 + e := by
  induction e with
  | zero => rw [Nat.pow_eq, Nat.pow_zero, Nat.mul_one, Nat.add_zero]
  | succ e ih =>
    have hdouble : m * Nat.pow 2 (e + 1) = 2 * (m * Nat.pow 2 e) := by
      simp only [Nat.pow_eq]
      ring
    have hne : m * Nat.pow 2 e ≠ 0 := Nat.mul_ne_zero hm (Nat.two_pow_pos e).ne'
    rw [hdouble, Nat.log2_two_mul hne, ih, Nat.add_assoc]

/-! ## Section 2: Ranks, doublings and significands -/

/-- A rank counts a binade for each doubling, and the significand on top. -/
theorem doublings_mul_add_significand (k : Nat) :
    doublings k * binade + significand k = k := by
  unfold doublings significand
  by_cases h : k < binade
  · rw [if_pos h, Nat.div_eq_of_lt h, Nat.zero_sub, Nat.zero_mul, Nat.zero_add]
  · rw [if_neg h]
    have hone : 1 ≤ k / binade := (Nat.one_le_div_iff binade_pos).mpr (Nat.not_lt.mp h)
    calc (k / binade - 1) * binade + (binade + k % binade)
        = (k / binade - 1 + 1) * binade + k % binade := by ring
      _ = k / binade * binade + k % binade := by rw [Nat.sub_add_cancel hone]
      _ = k := Nat.div_add_mod' k binade

theorem significand_lt (k : Nat) : significand k < 2 * binade := by
  unfold significand
  have hmod := Nat.mod_lt k binade_pos
  split <;> omega

/-- Only ranks without doublings have a significand below a full binade. -/
theorem binade_le_significand {k : Nat} (h : doublings k ≠ 0) : binade ≤ significand k := by
  unfold significand
  split
  · next hlt =>
    refine absurd ?_ h
    unfold doublings
    rw [Nat.div_eq_of_lt hlt]
  · exact Nat.le_add_right _ _

/-- A rank is given by its doublings and its significand. -/
theorem doublings_mul_add {e m : Nat} (hm : m < 2 * binade) (hfull : e ≠ 0 → binade ≤ m) :
    doublings (e * binade + m) = e ∧ significand (e * binade + m) = m := by
  by_cases hsmall : m < binade
  · have he : e = 0 := by
      by_contra h
      exact absurd (hfull h) (Nat.not_le.mpr hsmall)
    subst he
    unfold doublings significand
    simp [Nat.div_eq_of_lt hsmall, hsmall]
  · -- the significand fills one binade and reaches into the next
    obtain ⟨r, rfl⟩ := Nat.exists_eq_add_of_le (Nat.not_lt.mp hsmall)
    have hr : r < binade := by omega
    have hrank : e * binade + (binade + r) = (e + 1) * binade + r := by ring
    have hdiv : ((e + 1) * binade + r) / binade = e + 1 := by
      rw [Nat.mul_comm, Nat.mul_add_div binade_pos, Nat.div_eq_of_lt hr, Nat.add_zero]
    have hmod : ((e + 1) * binade + r) % binade = r := by
      rw [Nat.mul_comm, Nat.mul_add_mod, Nat.mod_eq_of_lt hr]
    have hge : ¬ (e + 1) * binade + r < binade := by
      rw [Nat.not_lt, Nat.succ_mul]
      omega
    unfold doublings significand
    rw [hrank, if_neg hge, hdiv, hmod]
    exact ⟨rfl, rfl⟩

/-- The magnitude of a rank has `53` bits before the doublings, or fewer where there
    are none. -/
theorem log2_steps (k : Nat) : (steps k).log2 - 52 = doublings k := by
  unfold steps
  by_cases hk : doublings k = 0
  · have hlt : (significand k).log2 < 53 := by
      by_cases hs : significand k = 0
      · rw [hs]
        decide
      · exact (Nat.log2_lt hs).mpr (significand_lt k)
    rw [hk]
    simp only [Nat.pow_eq, Nat.pow_zero, Nat.mul_one]
    omega
  · have hfull := binade_le_significand hk
    have hs : significand k ≠ 0 := Nat.ne_of_gt (Nat.lt_of_lt_of_le binade_pos hfull)
    have hlog : (significand k).log2 = 52 := by
      have hlt : (significand k).log2 < 53 := (Nat.log2_lt hs).mpr (significand_lt k)
      have hle : 52 ≤ (significand k).log2 := (Nat.le_log2 hs).mpr hfull
      omega
    rw [log2_mul_pow hs, hlog, Nat.add_sub_cancel_left]

/-! ## Section 3: Rounding a ratio -/

/-- Only the value of a ratio counts. -/
theorem rankOfRatio_mul_mul (n d : Nat) {c : Nat} (hc : 0 < c) :
    rankOfRatio (n * c) (d * c) = rankOfRatio n d := by
  have hsteps : n * c * scale = n * scale * c := by ring
  have hunit : ∀ u : Nat, d * c * u = d * u * c := by
    intro u
    ring
  unfold rankOfRatio
  simp only [hsteps, hunit, Nat.mul_div_mul_right _ d hc, divNearest_mul_mul _ _ hc]

/-- Equal ratios have one rank. -/
theorem rankOfRatio_congr {n d n' d' : Nat} (hd : 0 < d) (hd' : 0 < d') (h : n * d' = n' * d) :
    rankOfRatio n d = rankOfRatio n' d' := by
  calc rankOfRatio n d = rankOfRatio (n * d') (d * d') := (rankOfRatio_mul_mul n d hd').symm
    _ = rankOfRatio (n' * d) (d' * d) := by rw [h, Nat.mul_comm d d']
    _ = rankOfRatio n' d' := rankOfRatio_mul_mul n' d' hd

/-- A magnitude is its own nearest neighbour. -/
theorem rankOfRatio_steps (k : Nat) : rankOfRatio (steps k) scale = k := by
  unfold rankOfRatio
  simp only [Nat.mul_div_cancel (steps k) scale_pos, log2_steps]
  have hexact : steps k * scale = significand k * (scale * Nat.pow 2 (doublings k)) := by
    unfold steps
    ring
  have hunit : 0 < scale * Nat.pow 2 (doublings k) :=
    Nat.mul_pos scale_pos (Nat.pow_pos (by decide))
  rw [hexact, divNearest_mul_left _ hunit, doublings_mul_add_significand]

/-- A ratio that is the magnitude of a rank has this rank. -/
theorem rankOfRatio_eq {n d k : Nat} (hd : 0 < d) (h : n * scale = steps k * d) :
    rankOfRatio n d = k := by
  rw [rankOfRatio_congr hd scale_pos h, rankOfRatio_steps]

/-- Different ranks are different magnitudes. -/
theorem steps_injective {j k : Nat} (h : steps j = steps k) : j = k := by
  rw [← rankOfRatio_steps j, h, rankOfRatio_steps]

/-- Whole numbers below `2 ^ 53` are magnitudes. -/
theorem steps_rankOfRatio_one {n : Nat} (h : n < 2 * binade) :
    steps (rankOfRatio n 1) = n * scale := by
  by_cases hn : n = 0
  · subst hn
    simp [rankOfRatio, divNearest, steps, doublings, significand]
  -- the number is `m` doubled `e` times and then halved as often as a step is
  have hbits : n.log2 ≤ 52 := Nat.lt_succ_iff.mp ((Nat.log2_lt hn).mpr h)
  let e := n.log2 + 1022
  let m := n * Nat.pow 2 (52 - n.log2)
  have hlow : binade ≤ m := by
    have hle := Nat.mul_le_mul_right (Nat.pow 2 (52 - n.log2)) (Nat.log2_self_le hn)
    rw [Nat.pow_eq, ← Nat.pow_add, Nat.add_sub_cancel' hbits] at hle
    exact hle
  have hhigh : m < 2 * binade := by
    have hlt := Nat.mul_lt_mul_of_pos_right (Nat.lt_log2_self (n := n))
      (Nat.pow_pos (n := 52 - n.log2) (a := 2) (by decide))
    rw [← Nat.pow_add, show n.log2 + 1 + (52 - n.log2) = 52 + 1 by omega, Nat.pow_succ] at hlt
    rw [Nat.mul_comm 2]
    exact hlt
  have hvalue : m * Nat.pow 2 e = n * scale := by
    have hbits' : 52 - n.log2 + e = stepBits := by
      unfold e stepBits
      omega
    rw [Nat.mul_assoc, Nat.pow_eq, Nat.pow_eq, ← Nat.pow_add, hbits', scale_eq, Nat.pow_eq]
  obtain ⟨hd, hs⟩ := doublings_mul_add hhigh fun _ => hlow
  have hsteps : steps (e * binade + m) = n * scale := by
    unfold steps
    rw [hd, hs, hvalue]
  rw [rankOfRatio_eq (k := e * binade + m) Nat.one_pos (by rw [hsteps, Nat.mul_one]), hsteps]

theorem steps_lt_pow {k e : Nat} (h : 53 + doublings k ≤ e) : steps k < Nat.pow 2 e := by
  have hs : significand k < 2 ^ 53 := significand_lt k
  calc significand k * 2 ^ doublings k
      < 2 ^ 53 * 2 ^ doublings k := Nat.mul_lt_mul_of_pos_right hs (Nat.two_pow_pos _)
    _ = 2 ^ (53 + doublings k) := (Nat.pow_add 2 53 (doublings k)).symm
    _ ≤ 2 ^ e := Nat.pow_le_pow_right (by decide) h

/-- A finite magnitude is below `2 ^ 1024`. -/
theorem steps_lt {k e : Nat} (hk : k < rankBound) (he : stepBits + 1024 ≤ e) :
    steps k < Nat.pow 2 e := by
  apply steps_lt_pow
  have hlt : k / binade < 2047 := (Nat.div_lt_iff_lt_mul binade_pos).mpr hk
  unfold doublings
  unfold stepBits at he
  omega

/-- Only zero has no steps. -/
theorem steps_eq_zero_iff {k : Nat} : steps k = 0 ↔ k = 0 := by
  have hzero : steps 0 = 0 := by simp [steps, significand]
  constructor
  · intro h
    exact steps_injective (h.trans hzero.symm)
  · rintro rfl
    exact hzero

end Binary64

end SimSweep
