import Mathlib.Algebra.Order.Field.Rat
import Mathlib.Tactic.FieldSimp
import Mathlib.Tactic.GCongr
import Mathlib.Tactic.Linarith
import Mathlib.Tactic.Positivity
import SimSweep.Proofs.Number.Rounding

/-! # Near amounts have near ranks

    Two amounts are near each other if neither is much more than the other times a factor
    close to one. Rounding leaves an amount near what it was, and nearness is kept by
    products and quotients, with factors that multiply. In the end it is turned into a
    distance of ranks: the factor tells how many magnitudes two ratios may be apart.
-/

namespace SimSweep.Binary64

/-! ## Section 1: Amounts -/

/-- A ratio, in steps. -/
def ratio (n d : Nat) : ℚ := n * scale / d

section Ratio

variable {n d : Nat} (hd : 0 < d)

include hd

theorem ratio_mul : ratio n d * d = n * scale :=
  div_mul_cancel₀ _ (Nat.cast_ne_zero.mpr hd.ne')

/-- A ratio is compared with an amount by way of its denominator. -/
theorem ratio_le {x : ℚ} (h : n * scale ≤ x * d) : ratio n d ≤ x := by
  have hpos : (0 : ℚ) < d := Nat.cast_pos.mpr hd
  rw [← ratio_mul hd] at h
  exact le_of_mul_le_mul_right h hpos

theorem le_ratio {x : ℚ} (h : x * d ≤ n * scale) : x ≤ ratio n d := by
  have hpos : (0 : ℚ) < d := Nat.cast_pos.mpr hd
  rw [← ratio_mul hd] at h
  exact le_of_mul_le_mul_right h hpos

end Ratio

theorem ratio_nonneg (n d : Nat) : 0 ≤ ratio n d :=
  div_nonneg (mul_nonneg (Nat.cast_nonneg n) (Nat.cast_nonneg scale)) (Nat.cast_nonneg d)

/-- Neither amount is more than `f` times the other, and `s` steps. -/
structure Near (f s x y : ℚ) : Prop where
  le : x ≤ f * y + s
  ge : y ≤ f * x + s

namespace Near

variable {f g s t x y z a b : ℚ}

theorem symm (h : Near f s x y) : Near f s y x := ⟨h.ge, h.le⟩

theorem refl (x : ℚ) : Near 1 0 x x := by
  constructor <;> linarith

theorem mono (h : Near f s x y) (hx : 0 ≤ x) (hy : 0 ≤ y) (hf : f ≤ g) (hs : s ≤ t) :
    Near g t x y where
  le := h.le.trans (add_le_add (mul_le_mul_of_nonneg_right hf hy) hs)
  ge := h.ge.trans (add_le_add (mul_le_mul_of_nonneg_right hf hx) hs)

/-- One amount is near another that is near a third. -/
theorem trans (h : Near f s x y) (h' : Near g 0 y z) (hf : 0 ≤ f) (hg : 0 ≤ g) :
    Near (f * g) (max s (g * s)) x z where
  le := by
    have hstep := mul_le_mul_of_nonneg_left h'.le hf
    have hmax := le_max_left s (g * s)
    have hle := h.le
    linarith [mul_assoc f g z]
  ge := by
    have hstep := mul_le_mul_of_nonneg_left h.ge hg
    have hmax := le_max_right s (g * s)
    have hge := h'.ge
    linarith [mul_assoc g f x, mul_comm f g]

/-- Products of near amounts. -/
theorem mul (h : Near f 0 x y) (h' : Near g 0 a b) (hf : 0 ≤ f) (hx : 0 ≤ x) (hy : 0 ≤ y)
    (ha : 0 ≤ a) (hb : 0 ≤ b) : Near (f * g) 0 (x * a) (y * b) where
  le := by
    have hle := h.le
    have hle' := h'.le
    rw [add_zero] at hle hle' ⊢
    calc x * a ≤ f * y * (g * b) := mul_le_mul hle hle' ha (mul_nonneg hf hy)
      _ = f * g * (y * b) := by ring
  ge := by
    have hge := h.ge
    have hge' := h'.ge
    rw [add_zero] at hge hge' ⊢
    calc y * b ≤ f * x * (g * a) := mul_le_mul hge hge' hb (mul_nonneg hf hx)
      _ = f * g * (x * a) := by ring

/-- Quotients of near amounts; what is between the first two is divided as well. -/
theorem div (h : Near f s x y) (h' : Near g 0 a b) (hf : 0 ≤ f) (hs : 0 ≤ s) (hg : 1 ≤ g)
    (hx : 0 ≤ x) (hy : 0 ≤ y) (ha : 0 < a) (hb : 0 < b) :
    Near (f * g) (g * s / b) (x / a) (y / b) where
  le := by
    have hinverse : 1 / a ≤ g * (1 / b) := by
      have hge := h'.ge
      rw [add_zero] at hge
      rw [mul_one_div, div_le_div_iff₀ ha hb, one_mul]
      exact hge
    have hnonneg : 0 ≤ f * y + s := add_nonneg (mul_nonneg hf hy) hs
    calc x / a = x * (1 / a) := by rw [mul_one_div]
      _ ≤ (f * y + s) * (g * (1 / b)) :=
          mul_le_mul h.le hinverse (one_div_pos.mpr ha).le hnonneg
      _ = f * g * (y / b) + g * s / b := by ring
  ge := by
    have hinverse : 1 / b ≤ g * (1 / a) := by
      have hle := h'.le
      rw [add_zero] at hle
      rw [mul_one_div, div_le_div_iff₀ hb ha, one_mul]
      exact hle
    have hslack : s / b ≤ g * s / b := by
      gcongr
      exact le_mul_of_one_le_left hs hg
    calc y / b ≤ (f * x + s) / b := by
          gcongr
          exact h.ge
      _ = f * x * (1 / b) + s / b := by ring
      _ ≤ f * x * (g * (1 / a)) + g * s / b :=
          add_le_add (mul_le_mul_of_nonneg_left hinverse (mul_nonneg hf hx)) hslack
      _ = f * g * (x / a) + g * s / b := by ring

end Near

/-! ## Section 2: What rounding leaves near -/

/-- One and the greatest relative error of rounding. -/
def roundingFactor : ℚ := 1 + 1 / 2 ^ 53

/-- Rounding leaves a ratio within half a unit. The unit is small in comparison, unless it
    is the least one and the ratio is very small. -/
theorem exists_unit (n : Nat) {d : Nat} (hd : 0 < d) :
    ∃ u : ℚ, 2 * ratio n d ≤ 2 * steps (rankOfRatio n d) + u ∧
      2 * steps (rankOfRatio n d) ≤ 2 * ratio n d + u ∧
      (binade * u ≤ ratio n d ∧ binade * u ≤ steps (rankOfRatio n d) ∨
        u = 1 ∧ n * scale < binade * d) := by
  obtain ⟨e, m, hrounds⟩ := exists_rounds n hd
  let u := Nat.pow 2 e
  have hpos : (0 : ℚ) < d := Nat.cast_pos.mpr hd
  have hsteps : (steps (rankOfRatio n d) : ℚ) = m * u := by
    rw [hrounds.rank, steps_mul_add hrounds.le hrounds.full]
    exact Nat.cast_mul m u
  have habove : 2 * (n * scale : ℚ) ≤ (2 * m + 1) * (d * u) := by exact_mod_cast hrounds.above
  have hbelow : 2 * m * (d * u : ℚ) ≤ 2 * (n * scale) + d * u := by exact_mod_cast hrounds.below
  rw [hsteps]
  refine ⟨u, ?_, ?_, ?_⟩
  · have hle : ratio n d ≤ (2 * m + 1) * u / 2 := ratio_le hd (by linarith)
    linarith
  · have hle : (2 * m - 1) * u / 2 ≤ ratio n d := le_ratio hd (by linarith)
    linarith
  · by_cases hsmall : e = 0 ∧ n * scale < binade * d
    · refine .inr ⟨?_, hsmall.2⟩
      show ((Nat.pow 2 e : Nat) : ℚ) = 1
      rw [hsmall.1]
      exact Nat.cast_one
    · have hleast : binade * (d * u) ≤ n * scale := by
        by_cases he : e = 0
        · show binade * (d * Nat.pow 2 e) ≤ n * scale
          rw [he, Nat.pow_eq, Nat.pow_zero, Nat.mul_one]
          exact Nat.not_lt.mp fun hlt => hsmall ⟨he, hlt⟩
        · exact hrounds.least he
      have hfull : binade ≤ m :=
        binade_le_of_le (Nat.mul_pos hd (Nat.two_pow_pos e)) hleast hrounds.above
      refine .inl ⟨le_ratio hd ?_, ?_⟩
      · have hcast : (binade * (d * u) : ℚ) ≤ n * scale := by exact_mod_cast hleast
        linarith
      · have hcast : (binade : ℚ) ≤ m := by exact_mod_cast hfull
        exact mul_le_mul_of_nonneg_right hcast (Nat.cast_nonneg u)

/-- A ratio is near what it is rounded to, up to half a step. -/
theorem near_rounded (n : Nat) {d : Nat} (hd : 0 < d) :
    Near roundingFactor (1 / 2) (steps (rankOfRatio n d)) (ratio n d) := by
  obtain ⟨u, habove, hbelow, hunit⟩ := exists_unit n hd
  have hratio := ratio_nonneg n d
  have hsteps : (0 : ℚ) ≤ steps (rankOfRatio n d) := Nat.cast_nonneg _
  have hbinade : (binade : ℚ) = 2 ^ 52 := by norm_num [binade]
  rw [hbinade] at hunit
  unfold roundingFactor
  -- half a unit is one part in `2 ^ 53`, or the unit is a step
  rcases hunit with ⟨hle, hle'⟩ | ⟨rfl, _⟩ <;> constructor <;> linarith

/-- A ratio that is not very small is near it without exception. -/
theorem near_rounded_of_binade_le {n d : Nat} (hd : 0 < d) (h : binade * d ≤ n * scale) :
    Near roundingFactor 0 (steps (rankOfRatio n d)) (ratio n d) := by
  obtain ⟨u, habove, hbelow, hunit⟩ := exists_unit n hd
  have hbinade : (binade : ℚ) = 2 ^ 52 := by norm_num [binade]
  obtain ⟨hle, hle'⟩ := hunit.resolve_right fun hsmall => Nat.not_lt.mpr h hsmall.2
  rw [hbinade] at hle hle'
  unfold roundingFactor
  constructor <;> linarith

theorem near_rounded_one (n : Nat) :
    Near roundingFactor 0 (steps (rankOfRatio n 1)) (ratio n 1) := by
  by_cases hn : n = 0
  · subst hn
    rw [rankOfRatio_zero, steps_eq_zero_iff.mpr rfl]
    simp only [ratio, Nat.cast_zero, zero_mul, zero_div]
    constructor <;> simp
  · exact near_rounded_of_binade_le Nat.one_pos (binade_le_mul_scale hn)

/-! ## Section 3: Distances of ranks -/

theorem significand_add_one_le (k : Nat) : (significand k : ℚ) + 1 ≤ 2 ^ 53 := by
  have hlt : significand k + 1 ≤ 2 * binade := significand_lt k
  have hcast : (significand k : ℚ) + 1 ≤ 2 * binade := by exact_mod_cast hlt
  norm_num [binade] at hcast ⊢
  linarith

/-- A ratio is at most half a unit above what it is rounded to. -/
theorem ratio_le_rank {n d : Nat} (hd : 0 < d) :
    2 * ratio n d ≤ (2 * significand (rankOfRatio n d) + 1) *
      (Nat.pow 2 (doublings (rankOfRatio n d)) : Nat) := by
  have hle : 2 * (n * scale : ℚ) ≤ (2 * significand (rankOfRatio n d) + 1) *
      (d * (Nat.pow 2 (doublings (rankOfRatio n d)) : Nat)) := by
    exact_mod_cast le_of_rankOfRatio hd
  have hratio : ratio n d ≤ (2 * significand (rankOfRatio n d) + 1) *
      (Nat.pow 2 (doublings (rankOfRatio n d)) : Nat) / 2 := ratio_le hd (by linarith)
  linarith

section Distance

variable {n d n' d' j : Nat} {f s : ℚ}

/-- The factor and the steps bound the number of magnitudes that a ratio may be above
    another one. -/
theorem rankOfRatio_le_of_ratio_le (hd : 0 < d) (hd' : 0 < d') (h : ratio n' d' ≤ f * ratio n d + s)
    (hf : 1 ≤ f) (hs : 0 ≤ s) (hj : j ≤ binade)
    (hfar : (f - 1) * (2 ^ 54 - 1) + 2 * s < 2 * j) :
    rankOfRatio n' d' ≤ rankOfRatio n d + j := by
  let r := rankOfRatio n d
  let u := Nat.pow 2 (doublings r)
  apply rankOfRatio_le_add hd' hj
  have hpos : (0 : ℚ) < d' := Nat.cast_pos.mpr hd'
  have hunit : (1 : ℚ) ≤ u := Nat.one_le_cast.mpr (Nat.two_pow_pos _)
  have hm := significand_add_one_le r
  have hbound : 2 * ratio n d ≤ (2 * significand r + 1) * u := ratio_le_rank hd
  -- the factor adds less than `j` units to a ratio that is rounded to a significand
  have hlt : 2 * ratio n' d' < (2 * (significand r + j) + 1) * u := by
    have hslack : s ≤ s * u := le_mul_of_one_le_right hs hunit
    have hfactor : f * (2 * ratio n d) ≤ f * ((2 * significand r + 1) * u) :=
      mul_le_mul_of_nonneg_left hbound (by linarith)
    have hexcess : (f - 1) * (2 * significand r + 1) ≤ (f - 1) * (2 ^ 54 - 1) :=
      mul_le_mul_of_nonneg_left (by linarith) (by linarith)
    calc 2 * ratio n' d' ≤ f * ((2 * significand r + 1) * u) + 2 * (s * u) := by linarith
      _ = ((2 * significand r + 1) + ((f - 1) * (2 * significand r + 1) + 2 * s)) * u := by ring
      _ < ((2 * significand r + 1) + 2 * j) * u := by
          gcongr
          linarith
      _ = (2 * (significand r + j) + 1) * u := by ring
  have hscaled := mul_lt_mul_of_pos_right hlt hpos
  rw [mul_assoc, ratio_mul hd'] at hscaled
  have hcast : 2 * (n' * scale : ℚ) < (2 * (significand r + j) + 1) * (d' * u) := by linarith
  exact_mod_cast hcast

/-- Near ratios have near ranks. -/
theorem Near.rank (h : Near f s (ratio n' d') (ratio n d)) (hd : 0 < d) (hd' : 0 < d')
    (hf : 1 ≤ f) (hs : 0 ≤ s) (hj : j ≤ binade) (hfar : (f - 1) * (2 ^ 54 - 1) + 2 * s < 2 * j) :
    rankOfRatio n' d' ≤ rankOfRatio n d + j ∧ rankOfRatio n d ≤ rankOfRatio n' d' + j :=
  ⟨rankOfRatio_le_of_ratio_le hd hd' h.le hf hs hj hfar,
    rankOfRatio_le_of_ratio_le hd' hd h.ge hf hs hj hfar⟩

end Distance

/-! ## Section 4: Very near ratios -/

/-- One significand more is one unit more. -/
theorem steps_succ (k : Nat) : steps (k + 1) = (significand k + 1) * Nat.pow 2 (doublings k) := by
  have hnext : k + 1 = doublings k * binade + (significand k + 1) := by
    rw [← Nat.add_assoc, doublings_mul_add_significand]
  rw [hnext]
  exact steps_mul_add (significand_lt k)
    fun he => Nat.le_trans (binade_le_significand he) (Nat.le_succ _)

theorem cast_steps_succ (k : Nat) :
    (steps (k + 1) : ℚ) = (significand k + 1) * (Nat.pow 2 (doublings k) : Nat) := by
  rw [steps_succ]
  push_cast
  rfl

theorem steps_mono : Monotone steps := by
  refine monotone_nat_of_le_succ fun k => ?_
  rw [steps_succ]
  exact Nat.mul_le_mul_right _ (Nat.le_succ _)

/-- A small part of the steps up to half a unit beyond a magnitude. -/
theorem div_le_half_unit {a r : Nat} (h : a ≤ steps (r + 1)) :
    (a : ℚ) / 2 ^ 54 ≤ (Nat.pow 2 (doublings r) : Nat) / 2 := by
  have hunit : (0 : ℚ) ≤ (Nat.pow 2 (doublings r) : Nat) := Nat.cast_nonneg _
  have hle : (a : ℚ) ≤ 2 ^ 53 * (Nat.pow 2 (doublings r) : Nat) := by
    calc (a : ℚ) ≤ steps (r + 1) := Nat.cast_le.mpr h
      _ = (significand r + 1) * (Nat.pow 2 (doublings r) : Nat) := cast_steps_succ r
      _ ≤ 2 ^ 53 * (Nat.pow 2 (doublings r) : Nat) :=
          mul_le_mul_of_nonneg_right (significand_add_one_le r) hunit
  linarith

/-- A ratio that is nearer to a magnitude than a quarter of the least relative distance of
    two magnitudes is rounded to it. -/
theorem rankOfRatio_eq_of_near {n d k : Nat} (hd : 0 < d)
    (h : |ratio n d - steps k| < steps k / 2 ^ 54) : rankOfRatio n d = k := by
  obtain ⟨hlo, hhi⟩ := abs_lt.mp h
  apply Nat.le_antisymm
  · -- the ratio is less than half a unit above the magnitude
    let u := Nat.pow 2 (doublings k)
    have hpart : (steps k : ℚ) / 2 ^ 54 ≤ u / 2 := div_le_half_unit (steps_mono (Nat.le_succ k))
    have hsteps : (steps k : ℚ) = significand k * u := Nat.cast_mul _ _
    have hbelow : ratio n d < significand k * u + u / 2 := by linarith
    have hscaled := mul_lt_mul_of_pos_right hbelow (Nat.cast_pos.mpr hd)
    rw [ratio_mul hd] at hscaled
    have hlt : 2 * (n * scale : ℚ) < (2 * significand k + 1) * (d * u) := by linarith
    exact rankOfRatio_le_add (j := 0) hd (Nat.zero_le _) (by exact_mod_cast hlt)
  · -- a lower rank would leave it half a unit below the next one
    by_contra hrank
    let r := rankOfRatio n d
    let u := Nat.pow 2 (doublings r)
    have hle : steps (r + 1) ≤ steps k := steps_mono (Nat.succ_le_of_lt (Nat.not_le.mp hrank))
    have hcast : (steps (r + 1) : ℚ) ≤ steps k := Nat.cast_le.mpr hle
    have hpart : (steps (r + 1) : ℚ) / 2 ^ 54 ≤ u / 2 := div_le_half_unit (Nat.le_refl _)
    have hnext : (steps (r + 1) : ℚ) = (significand r + 1) * u := cast_steps_succ r
    have habove : 2 * ratio n d ≤ (2 * significand r + 1) * u := ratio_le_rank hd
    linarith

end SimSweep.Binary64
