import SimSweep.Proofs.Json.Magnitude

/-! # How far reading is off

    The numeral of a magnitude is read by rounding its digits, rounding a power of ten and
    rounding the product or quotient of the two. That is two roundings too many, so the
    magnitude that is read may be another one. It is the same one where digits and power
    are held exactly, and never more than two magnitudes away, or three where the power is
    so small that it takes two divisions.
-/

namespace SimSweep

namespace Binary64

/-! ## Section 1: Factors and divisors -/

theorem scale_ne_zero : (scale : ℚ) ≠ 0 := Nat.cast_ne_zero.mpr scale_pos.ne'

/-- A magnitude of `a` steps is near a whole number if this is so in parts. -/
theorem near_of_parts {p q a b : Nat} (hq : 0 < q) (hle : q * a ≤ (q + p) * (b * scale))
    (hge : q * (b * scale) ≤ (q + p) * a) : Near (1 + p / q) 0 (a / scale) b := by
  have hpos : (0 : ℚ) < q := Nat.cast_pos.mpr hq
  have hscale : (0 : ℚ) < scale := Nat.cast_pos.mpr scale_pos
  have hle' : (q * a : ℚ) ≤ (q + p) * (b * scale) := by exact_mod_cast hle
  have hge' : (q * (b * scale) : ℚ) ≤ (q + p) * a := by exact_mod_cast hge
  constructor
  · rw [add_zero, div_le_iff₀ hscale, one_add_div hpos.ne', div_mul_eq_mul_div,
      div_mul_eq_mul_div, le_div_iff₀ hpos]
    linarith
  · rw [add_zero, one_add_div hpos.ne', div_mul_div_comm, le_div_iff₀ (mul_pos hpos hscale)]
    linarith

/-- A whole number is near what it is rounded to. -/
theorem near_rounded_whole (n : Nat) :
    Near roundingFactor 0 (steps (rankOfRatio n 1) / scale) n := by
  have h := near_rounded_one n
  have hratio : ratio n 1 = n * scale := by rw [ratio, Nat.cast_one, div_one]
  have hone := h.div (Near.refl scale) (by norm_num [roundingFactor]) le_rfl le_rfl
    (Nat.cast_nonneg _) (ratio_nonneg n 1) (Nat.cast_pos.mpr scale_pos)
    (Nat.cast_pos.mpr scale_pos)
  rw [hratio, mul_div_cancel_right₀ _ scale_ne_zero, mul_one, mul_zero, zero_div] at hone
  exact hone

/-- No whole number but zero is rounded to zero. -/
theorem steps_rankOfRatio_one_pos {n : Nat} (hn : n ≠ 0) : 0 < steps (rankOfRatio n 1) := by
  refine Nat.pos_of_ne_zero fun hzero => hn ?_
  have h := (near_rounded_whole n).ge
  rw [hzero, Nat.cast_zero, zero_div, mul_zero, add_zero] at h
  exact Nat.cast_eq_zero.mp (le_antisymm h (Nat.cast_nonneg n))

theorem rankOfRatio_one_ne_zero {n : Nat} (hn : n ≠ 0) : rankOfRatio n 1 ≠ 0 := by
  intro hzero
  have hpos := steps_rankOfRatio_one_pos hn
  rw [hzero, steps_eq_zero_iff.mpr rfl] at hpos
  exact Nat.lt_irrefl 0 hpos

section

variable {f g s : ℚ} {a p n d c : Nat} (hf : 0 ≤ f) (hg : 1 ≤ g)

include hf

/-- Two magnitudes multiplied, against a ratio times a whole number. -/
theorem Near.ratio_mul (h : Near f 0 a (ratio n d)) (h' : Near g 0 (p / scale) c) :
    Near (f * g) 0 (ratio (a * p) (scale * scale)) (ratio (n * c) d) := by
  have hproduct := h.mul h' hf (Nat.cast_nonneg a) (ratio_nonneg n d)
    (div_nonneg (Nat.cast_nonneg p) (Nat.cast_nonneg scale)) (Nat.cast_nonneg c)
  have hleft : ratio (a * p) (scale * scale) = a * (p / scale) := by
    rw [ratio, Nat.cast_mul, Nat.cast_mul, mul_div_mul_right _ _ scale_ne_zero, mul_div_assoc]
  have hright : ratio (n * c) d = ratio n d * c := by
    rw [ratio, ratio, Nat.cast_mul]
    ring
  rw [hleft, hright]
  exact hproduct

include hg

/-- A magnitude divided by another one, against a ratio divided by a whole number. -/
theorem Near.ratio_div (h : Near f s a (ratio n d)) (h' : Near g 0 (p / scale) c) (hs : 0 ≤ s)
    (hp : 0 < p) (hc : 0 < c) :
    Near (f * g) (g * s / c) (ratio a p) (ratio n (d * c)) := by
  have hquotient := h.div h' hf hs hg (Nat.cast_nonneg a) (ratio_nonneg n d)
    (div_pos (Nat.cast_pos.mpr hp) (Nat.cast_pos.mpr scale_pos)) (Nat.cast_pos.mpr hc)
  have hleft : ratio a p = a / (p / scale) := by
    rw [ratio, div_div_eq_mul_div]
  have hright : ratio n (d * c) = ratio n d / c := by
    rw [ratio, ratio, Nat.cast_mul, div_div]
  rw [hleft, hright]
  exact hquotient

end

end Binary64

namespace Json

open Binary64 (Near ratio rankOfRatio steps scale roundingFactor)

/-! ## Section 2: Powers of ten -/

theorem steps_powerRank_pos (k : Nat) : 0 < steps (powerRank k) :=
  Binary64.steps_rankOfRatio_one_pos (Nat.pow_pos (by decide)).ne'

/-- A tenth of the greatest relative error of rounding. -/
def limitFactor : ℚ := 1 + 1 / (10 * 2 ^ 53)

/-- The power that is divided by first is not rounded by more. -/
theorem near_powerRank_limit :
    Near limitFactor 0 (steps (powerRank powerLimit) / scale) (Nat.pow 10 powerLimit : Nat) := by
  have hfactor : limitFactor = 1 + (1 : Nat) / (10 * Nat.pow 2 53 : Nat) := by
    norm_num [limitFactor]
  rw [hfactor]
  exact Binary64.near_of_parts (by decide) (by decide +kernel) (by decide +kernel)

/-- Five sixths of that error. -/
def smallFactor : ℚ := 1 + 5 / (6 * 2 ^ 53)

/-- The powers that may be divided by after that are not rounded by more. -/
theorem near_powerRank_small {k : Nat} (hk : k < 111) :
    Near smallFactor 0 (steps (powerRank k) / scale) (Nat.pow 10 k : Nat) := by
  have hparts : ∀ k < 111,
      6 * Nat.pow 2 53 * steps (powerRank k) ≤
          (6 * Nat.pow 2 53 + 5) * (Nat.pow 10 k * scale) ∧
        6 * Nat.pow 2 53 * (Nat.pow 10 k * scale) ≤
          (6 * Nat.pow 2 53 + 5) * steps (powerRank k) := by
    decide +kernel
  have hfactor : smallFactor = 1 + (5 : Nat) / (6 * Nat.pow 2 53 : Nat) := by
    norm_num [smallFactor]
  rw [hfactor]
  exact Binary64.near_of_parts (by decide) (hparts k hk).1 (hparts k hk).2

/-- Powers of ten up to `10 ^ 22` are magnitudes. -/
theorem steps_powerRank : ∀ k < 23, steps (powerRank k) = Nat.pow 10 k * scale := by
  decide +kernel

/-! ## Section 3: One product or quotient -/

theorem one_le_roundingFactor : 1 ≤ roundingFactor := by norm_num [roundingFactor]

/-- Two roundings before the last one are worth two magnitudes. -/
theorem rank_of_near {n d n' d' : Nat}
    (h : Near (roundingFactor * roundingFactor) 0 (ratio n' d') (ratio n d)) (hd : 0 < d)
    (hd' : 0 < d') : rankOfRatio n' d' ≤ rankOfRatio n d + 2 ∧
      rankOfRatio n d ≤ rankOfRatio n' d' + 2 :=
  h.rank hd hd' (by norm_num [roundingFactor]) le_rfl (by decide) (by norm_num [roundingFactor])

theorem rankOfProduct_near (c k : Nat) :
    Binary64.rankOfProduct (rankOfRatio c 1) (powerRank k) ≤
        rankOfRatio (c * Nat.pow 10 k) 1 + 2 ∧
      rankOfRatio (c * Nat.pow 10 k) 1 ≤
        Binary64.rankOfProduct (rankOfRatio c 1) (powerRank k) + 2 := by
  have hnonneg := zero_le_one.trans one_le_roundingFactor
  have hnear := (Binary64.near_rounded_one c).ratio_mul hnonneg
    (Binary64.near_rounded_whole (Nat.pow 10 k))
  exact rank_of_near hnear Nat.one_pos (Nat.mul_pos Binary64.scale_pos Binary64.scale_pos)

theorem rankOfQuotient_near (c k : Nat) :
    Binary64.rankOfQuotient (rankOfRatio c 1) (powerRank k) ≤ rankOfRatio c (Nat.pow 10 k) + 2 ∧
      rankOfRatio c (Nat.pow 10 k) ≤
        Binary64.rankOfQuotient (rankOfRatio c 1) (powerRank k) + 2 := by
  have hnonneg := zero_le_one.trans one_le_roundingFactor
  have hpow : 0 < Nat.pow 10 k := Nat.pow_pos (by decide)
  have hnear := (Binary64.near_rounded_one c).ratio_div hnonneg one_le_roundingFactor
    (Binary64.near_rounded_whole (Nat.pow 10 k)) le_rfl (steps_powerRank_pos k) hpow
  rw [mul_zero, zero_div, Nat.one_mul] at hnear
  exact rank_of_near hnear hpow (steps_powerRank_pos k)

/-! ## Section 4: Two quotients -/

/-- A quotient that is rounded and divided once more. -/
theorem rankOfQuotient_rankOfQuotient_near (c : Nat) {k : Nat} (hk : 0 < k) (hlast : k < 111) :
    Binary64.rankOfQuotient
          (Binary64.rankOfQuotient (rankOfRatio c 1) (powerRank powerLimit)) (powerRank k) ≤
        rankOfRatio c (Nat.pow 10 (powerLimit + k)) + 3 ∧
      rankOfRatio c (Nat.pow 10 (powerLimit + k)) ≤
        Binary64.rankOfQuotient
          (Binary64.rankOfQuotient (rankOfRatio c 1) (powerRank powerLimit)) (powerRank k) + 3 := by
  have hnonneg := zero_le_one.trans one_le_roundingFactor
  have hlimit : 1 ≤ limitFactor := by norm_num [limitFactor]
  have hsmall : 1 ≤ smallFactor := by norm_num [smallFactor]
  have hpow : ∀ j, 0 < Nat.pow 10 j := fun j => Nat.pow_pos (by decide)
  have hfirst := (Binary64.near_rounded_one c).ratio_div hnonneg hlimit near_powerRank_limit
    le_rfl (steps_powerRank_pos powerLimit) (hpow powerLimit)
  rw [mul_zero, zero_div, Nat.one_mul] at hfirst
  have hfirst' : 0 ≤ roundingFactor * limitFactor := mul_nonneg hnonneg (by linarith)
  have hrounded := (Binary64.near_rounded (steps (rankOfRatio c 1))
    (steps_powerRank_pos powerLimit)).trans hfirst hnonneg hfirst'
  have hsecond := hrounded.ratio_div (mul_nonneg hnonneg hfirst') hsmall
    (near_powerRank_small hlast) (le_max_of_le_left (by norm_num)) (steps_powerRank_pos k) (hpow k)
  have hproduct : ∀ j, Nat.pow 10 j * Nat.pow 10 k = Nat.pow 10 (j + k) :=
    fun j => (Nat.pow_add 10 j k).symm
  rw [hproduct] at hsecond
  -- half a step before the last division is less than a tenth of one after it
  have hten : (10 : ℚ) ≤ (Nat.pow 10 k : Nat) := by
    have hle : Nat.pow 10 1 ≤ Nat.pow 10 k := Nat.pow_le_pow_right (by decide) hk
    exact_mod_cast hle
  have hslack : smallFactor * max (1 / 2) (roundingFactor * limitFactor * (1 / 2)) /
      (Nat.pow 10 k : Nat) ≤ 3 / 50 := by
    have hmax : smallFactor * max (1 / 2) (roundingFactor * limitFactor * (1 / 2)) ≤ 3 / 5 := by
      norm_num [smallFactor, limitFactor, roundingFactor]
    rw [div_le_iff₀ (by linarith)]
    linarith
  have hfactor : roundingFactor * (roundingFactor * limitFactor) * smallFactor ≤
      1 + 147 / (50 * 2 ^ 53) := by
    norm_num [smallFactor, limitFactor, roundingFactor]
  exact (hsecond.mono (Binary64.ratio_nonneg _ _) (Binary64.ratio_nonneg _ _) hfactor hslack).rank
    (hpow _) (steps_powerRank_pos k) (by norm_num) (by norm_num) (by decide) (by norm_num)

/-! ## Section 5: The magnitude that is read -/

/-- By how many magnitudes reading may be off with an exponent. -/
def drift (exponent : Int) : Nat := if exponent < -powerLimit then 3 else 2

/-- A decimal that is read without an error: digits below `2 ^ 53`, and a power of ten that
    is a magnitude. -/
def ReadsExactly (d : Decimal) : Prop := d.coefficient < Nat.pow 2 53 ∧ d.exponent.natAbs ≤ 22

/-- What a decimal other than zero with a power of ten is scaled to. -/
theorem scaledRank?_ofNat {c e r : Nat} (hc : c ≠ 0) (h : scaledRank? c (.ofNat e) = some r) :
    r = Binary64.rankOfProduct (rankOfRatio c 1) (powerRank e) ∧ r < rankBound := by
  have hrank : rankOfRatio c 1 ≠ 0 := Binary64.rankOfRatio_one_ne_zero hc
  unfold scaledRank? at h
  dsimp only at h
  split_ifs at h with he hproduct
  exact ⟨(Option.some.inj h).symm, Option.some.inj h ▸ hproduct⟩

/-- Small powers are divided by in one step, larger ones in two. -/
theorem divideByPower_of_le (rank : Nat) {k : Nat} (hk : k ≤ powerLimit) :
    divideByPower rank k = Binary64.rankOfQuotient rank (powerRank k) := by
  rw [divideByPower, if_pos hk]

theorem divideByPower_of_lt {rank : Nat} (hrank : rank ≠ 0) {k : Nat} (hk : 0 < k)
    (hlast : k ≤ powerLimit) :
    divideByPower rank (powerLimit + k) = Binary64.rankOfQuotient
      (Binary64.rankOfQuotient rank (powerRank powerLimit)) (powerRank k) := by
  rw [divideByPower, if_neg (by omega), if_neg hrank, Nat.add_sub_cancel_left,
    divideByPower_of_le _ hlast]

section

variable {d : Decimal} (hc : d.coefficient ≠ 0) {r : Nat}
  (h : scaledRank? d.coefficient d.exponent = some r)

include hc h

/-- The decimal that is read is near the one that is written. -/
theorem scaledRank?_near (hlast : -418 ≤ d.exponent) :
    r ≤ rankOfRatio d.numerator d.denominator + drift d.exponent ∧
      rankOfRatio d.numerator d.denominator ≤ r + drift d.exponent := by
  have hlimit : powerLimit = 308 := rfl
  obtain ⟨c, e⟩ := d
  dsimp only at hc h hlast ⊢
  cases e with
  | ofNat e =>
    obtain ⟨hnumerator, hdenominator⟩ := Decimal.numerator_ofNat c e
    have hdrift : drift (.ofNat e) = 2 := if_neg (by rw [Int.ofNat_eq_natCast]; omega)
    rw [hnumerator, hdenominator, hdrift, (scaledRank?_ofNat hc h).1]
    exact rankOfProduct_near c e
  | negSucc e =>
    obtain ⟨hnumerator, hdenominator⟩ := Decimal.denominator_negSucc c e
    obtain rfl : divideByPower (rankOfRatio c 1) (e + 1) = r := Option.some.inj h
    rw [hnumerator, hdenominator]
    by_cases hone : e + 1 ≤ powerLimit
    · have hdrift : drift (.negSucc e) = 2 := if_neg (by omega)
      rw [divideByPower_of_le _ hone, hdrift]
      exact rankOfQuotient_near c (e + 1)
    · -- divided by the greatest power first, and then by what is left
      have hdrift : drift (.negSucc e) = 3 := if_pos (by omega)
      obtain ⟨k, hk⟩ : ∃ k, e + 1 = powerLimit + k := Nat.exists_eq_add_of_le (by omega)
      rw [hk, hdrift, divideByPower_of_lt (Binary64.rankOfRatio_one_ne_zero hc) (by omega)
        (by omega)]
      exact rankOfQuotient_rankOfQuotient_near c (by omega) (by omega)

/-- Where nothing is rounded before the product or quotient, the decimal is read as what
    it converts to. -/
theorem scaledRank?_exact (hexact : ReadsExactly d) :
    r = rankOfRatio d.numerator d.denominator := by
  obtain ⟨c, e⟩ := d
  obtain ⟨hdigits, hpower⟩ := hexact
  dsimp only at hc h hdigits hpower
  have hsteps : steps (rankOfRatio c 1) = c * scale := Binary64.steps_rankOfRatio_one hdigits
  cases e with
  | ofNat e =>
    obtain ⟨hnumerator, hdenominator⟩ := Decimal.numerator_ofNat c e
    rw [hnumerator, hdenominator, (scaledRank?_ofNat hc h).1]
    unfold Binary64.rankOfProduct
    rw [hsteps, steps_powerRank e (Nat.lt_succ_of_le hpower)]
    refine Binary64.rankOfRatio_congr (Nat.mul_pos Binary64.scale_pos Binary64.scale_pos)
      Nat.one_pos ?_
    ring
  | negSucc e =>
    obtain ⟨hnumerator, hdenominator⟩ := Decimal.denominator_negSucc c e
    obtain rfl : divideByPower (rankOfRatio c 1) (e + 1) = r := Option.some.inj h
    have hone : e + 1 ≤ powerLimit := by
      have hlimit : powerLimit = 308 := rfl
      omega
    rw [hnumerator, hdenominator, divideByPower_of_le _ hone]
    unfold Binary64.rankOfQuotient
    rw [hsteps, steps_powerRank (e + 1) (by omega)]
    exact Binary64.rankOfRatio_mul_mul c _ Binary64.scale_pos

end

/-- A decimal with a few digits behind its point is far from the largest magnitude. -/
theorem rankOfRatio_pow_lt {c : Nat} (hc : c ≤ Nat.pow 10 17) (k : Nat) :
    rankOfRatio c (Nat.pow 10 k) + 3 < rankBound := by
  have hpow : 0 < Nat.pow 10 k := Nat.pow_pos (by decide)
  have htop : rankOfRatio (Nat.pow 10 17) 1 + 4 < rankBound := by decide +kernel
  have hone : ratio (Nat.pow 10 17) 1 = Nat.pow 10 17 * scale := by
    rw [ratio, Nat.cast_one, div_one]
  have hle : ratio c (Nat.pow 10 k) ≤ 1 * ratio (Nat.pow 10 17) 1 + 0 := by
    have hc' : (c : ℚ) ≤ Nat.pow 10 17 := Nat.cast_le.mpr hc
    have hpow' : (1 : ℚ) ≤ Nat.pow 10 k := Nat.one_le_cast.mpr hpow
    have hscale : (0 : ℚ) ≤ scale := Nat.cast_nonneg _
    have hproduct : (0 : ℚ) ≤ Nat.pow 10 17 * scale := mul_nonneg (Nat.cast_nonneg _) hscale
    rw [hone, one_mul, add_zero]
    refine Binary64.ratio_le hpow ?_
    exact (mul_le_mul_of_nonneg_right hc' hscale).trans (le_mul_of_one_le_right hproduct hpow')
  have h := Binary64.rankOfRatio_le_of_ratio_le (j := 1) Nat.one_pos hpow hle le_rfl le_rfl
    (by decide) (by norm_num)
  omega

theorem scaledRank?_zero : scaledRank? 0 (-1) = some 0 := by
  have hzero : rankOfRatio (steps (rankOfRatio 0 1)) (steps (powerRank 1)) = 0 := by
    rw [Binary64.rankOfRatio_zero, Binary64.steps_eq_zero_iff.mpr rfl]
    refine Binary64.rankOfRatio_eq (steps_powerRank_pos 1) ?_
    rw [Nat.zero_mul, Binary64.steps_eq_zero_iff.mpr rfl, Nat.zero_mul]
  show some (divideByPower (rankOfRatio 0 1) (0 + 1)) = some 0
  rw [divideByPower_of_le _ (by decide)]
  exact congrArg some hzero

section Written

variable {k : Nat} (hk : k < rankBound) (hk0 : k ≠ 0)

include hk hk0

theorem coefficient_written_ne_zero : (written k).coefficient ≠ 0 := by
  intro hc
  have hrank := rank_written hk
  rw [Decimal.rank_eq, if_pos hc] at hrank
  exact hk0 hrank.symm

/-- The decimal is of the size of the magnitude and has few digits, so its power of ten is
    not much smaller than the least magnitude. -/
theorem le_exponent_written : -418 ≤ (written k).exponent := by
  have hrank := rank_written hk
  obtain ⟨hpoint, _⟩ := Decimal.rank_eq_rankOfRatio (d := written k) (by omega) (by omega)
  have hlength : (Decimal.digitsOf (written k).coefficient).length - 1 ≤ 17 :=
    (Nat.pow_le_pow_iff_right (by decide)).mp
      (Nat.le_trans (Decimal.pow_length_sub_one_le (coefficient_written_ne_zero hk hk0))
        (coefficient_written_le hk))
  unfold Decimal.point at hpoint
  omega

/-- What is read for it is a magnitude again: only a decimal with few digits and places
    behind its point is not checked for that, and it is far from the largest one. -/
theorem scaledRank?_written_lt {r : Nat}
    (h : scaledRank? (written k).coefficient (written k).exponent = some r) : r < rankBound := by
  have hc := coefficient_written_ne_zero hk hk0
  have hnear := (scaledRank?_near hc h (le_exponent_written hk hk0)).1
  have hfew := coefficient_written_le hk
  generalize written k = d at *
  obtain ⟨c, e⟩ := d
  cases e with
  | ofNat e => exact (scaledRank?_ofNat hc h).2
  | negSucc e =>
    have hdrift : drift (.negSucc e) ≤ 3 := by
      unfold drift
      split <;> decide
    obtain ⟨hnumerator, hdenominator⟩ := Decimal.denominator_negSucc c e
    rw [hnumerator, hdenominator] at hnear
    have htop : rankOfRatio c (Nat.pow 10 (e + 1)) + 3 < rankBound :=
      rankOfRatio_pow_lt hfew (e + 1)
    dsimp only at hnear
    omega

end Written

/-- The decimal that is written for a magnitude is read as this magnitude or one that is
    not far away. -/
theorem exists_scaledRank?_near {k : Nat} (hk : k < rankBound) :
    ∃ r < rankBound, scaledRank? (written k).coefficient (written k).exponent = some r ∧
      r ≤ k + drift (written k).exponent ∧ k ≤ r + drift (written k).exponent ∧
      (ReadsExactly (written k) → r = k) := by
  by_cases hk0 : k = 0
  · subst hk0
    rw [written_zero]
    exact ⟨0, hk, scaledRank?_zero, Nat.zero_le _, Nat.zero_le _, fun _ => rfl⟩
  obtain ⟨r, hr⟩ := exists_scaledRank?_written hk
  have hc := coefficient_written_ne_zero hk hk0
  obtain ⟨hle, hge⟩ := scaledRank?_near hc hr (le_exponent_written hk hk0)
  have hexact := scaledRank?_exact hc hr
  -- the decimal converts back, so what it is compared with is the magnitude itself
  have hrank := rank_written hk
  obtain ⟨_, _, hratio⟩ := Decimal.rank_eq_rankOfRatio (d := written k) (by omega) (by omega)
  rw [hrank] at hratio
  rw [← hratio] at hle hge hexact
  exact ⟨r, scaledRank?_written_lt hk hk0 hr, hr, hle, hge, hexact⟩

/-- So the numeral of a finite number is read as a finite number with the same sign. -/
theorem Number.exists_readsAs_near (negative : Bool) (k : Fin rankBound) :
    ∃ r : Fin rankBound,
      scaledRank? (written k).coefficient (written k).exponent = some r.val ∧
      r.val ≤ k + drift (written k).exponent ∧ k.val ≤ r + drift (written k).exponent ∧
      (ReadsExactly (written k) → r = k) ∧
      ReadsAs (.float (.finite negative k)) (.float (.finite negative r)) := by
  obtain ⟨r, hr, hscaled, hle, hge, hexact⟩ := exists_scaledRank?_near k.isLt
  have hrank : Binary64.ofRank negative r = .finite negative ⟨r, hr⟩ := dif_pos hr
  have hreads := readsAs_finite negative k hscaled
  rw [hrank] at hreads
  exact ⟨⟨r, hr⟩, hscaled, hle, hge, fun h => Fin.ext (hexact h), hreads⟩

/-- Whole numbers of 32 bits are read back, although they are written as numbers that need
    not be whole. -/
theorem Number.readsAs_word {x : Binary64} (h : x.isWord) : ReadsAs (.float x) (.float x) := by
  obtain ⟨negative, k, n, rfl, hsteps, hn⟩ := Binary64.exists_of_isWord h
  have hwritten := written_whole k.isLt (Nat.lt_of_le_of_lt hn (by decide)) hsteps
  have hdigits : 10 * n < Nat.pow 2 53 :=
    Nat.lt_of_le_of_lt (Nat.mul_le_mul_left 10 hn) (by decide)
  have hpower : (-1 : Int).natAbs ≤ 22 := by decide
  have hexact : ReadsExactly (written k) := by
    rw [hwritten]
    exact ⟨hdigits, hpower⟩
  obtain ⟨r, _, _, _, heq, hreads⟩ := Number.exists_readsAs_near negative k
  rw [heq hexact] at hreads
  exact hreads

end Json

end SimSweep
