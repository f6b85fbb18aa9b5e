import Mathlib.Algebra.Order.Field.Basic
import Mathlib.Algebra.Order.Field.Rat
import Mathlib.Data.Int.Cast.Lemmas
import SimSweep.Proofs.Number.Rank

/-! # The value of a number

    A number that is neither NaN nor infinite stands for a rational number, its value. The
    tests of numbers, which look at the sign and count steps, are restated here as what they
    say about the value.
-/

namespace SimSweep.Binary64

theorem scale_cast_pos : (0 : ℚ) < scale := Nat.cast_pos.mpr scale_pos

/-- The value of a magnitude. -/
def magnitude (k : Nat) : ℚ := steps k / scale

theorem magnitude_nonneg (k : Nat) : 0 ≤ magnitude k :=
  div_nonneg (Nat.cast_nonneg _) scale_cast_pos.le

theorem magnitude_pos_iff {k : Nat} : 0 < magnitude k ↔ k ≠ 0 := by
  unfold magnitude
  rw [div_pos_iff_of_pos_right scale_cast_pos, Nat.cast_pos, Nat.pos_iff_ne_zero, ne_eq,
    steps_eq_zero_iff]

/-- A magnitude is a whole number exactly if its steps make up whole units. -/
theorem magnitude_eq_natCast_iff {k n : Nat} : magnitude k = n ↔ steps k = n * scale := by
  unfold magnitude
  rw [div_eq_iff scale_cast_pos.ne']
  norm_cast

theorem natCast_lt_magnitude_iff {k n : Nat} : (n : ℚ) < magnitude k ↔ n * scale < steps k := by
  unfold magnitude
  rw [lt_div_iff₀ scale_cast_pos]
  norm_cast

/-- The value of a number that is neither NaN nor infinite. -/
def value? : Binary64 → Option ℚ
  | .finite negative k => some (if negative then -magnitude k else magnitude k)
  | _ => none

theorem isFinite_iff_value {x : Binary64} : x.isFinite ↔ ∃ v, x.value? = some v := by
  cases x <;> simp [isFinite, value?]

/-- The sign of zero does not make it negative. -/
theorem isNegative_iff_value {x : Binary64} {v : ℚ} (h : x.value? = some v) :
    x.isNegative ↔ v < 0 := by
  cases x with
  | nan => cases h
  | infinite negative => cases h
  | finite negative k =>
    obtain rfl := Option.some.inj h
    cases negative with
    | false => simp [isNegative, magnitude_nonneg k]
    | true =>
      simp only [isNegative, Bool.true_and, bne_iff_ne, if_true, neg_lt_zero, magnitude_pos_iff]

/-- The sign does not matter to whether a number is whole. -/
theorem isWhole_iff_value {x : Binary64} {v : ℚ} (h : x.value? = some v) :
    x.isWhole ↔ ∃ m : ℤ, v = m := by
  cases x with
  | nan => cases h
  | infinite negative => cases h
  | finite negative k =>
    obtain rfl := Option.some.inj h
    have hwhole : isWhole (.finite negative k) ↔ ∃ n : ℕ, magnitude k = n := by
      simp only [isWhole, beq_iff_eq, ← Nat.dvd_iff_mod_eq_zero, magnitude_eq_natCast_iff]
      constructor
      · rintro ⟨n, hn⟩
        exact ⟨n, by rw [hn, Nat.mul_comm]⟩
      · rintro ⟨n, hn⟩
        exact ⟨n, by rw [hn, Nat.mul_comm]⟩
    rw [hwhole]
    constructor
    · rintro ⟨n, hn⟩
      refine ⟨if negative then -n else n, ?_⟩
      split <;> simp [hn]
    · rintro ⟨m, hm⟩
      -- the magnitude is the amount of the whole number
      refine ⟨m.natAbs, ?_⟩
      have hcast : ((m.natAbs : ℕ) : ℚ) = |(m : ℚ)| := by
        rw [Nat.cast_natAbs, Int.cast_abs]
      rw [hcast, ← hm]
      split
      · rw [abs_neg, abs_of_nonneg (magnitude_nonneg k)]
      · rw [abs_of_nonneg (magnitude_nonneg k)]

theorem exceeds_iff_value {x : Binary64} {v : ℚ} (h : x.value? = some v) (n : Nat) :
    x.exceeds n ↔ (n : ℚ) < v := by
  cases x with
  | nan => cases h
  | infinite negative => cases h
  | finite negative k =>
    obtain rfl := Option.some.inj h
    cases negative with
    | false => simp [exceeds, natCast_lt_magnitude_iff]
    | true =>
      have hnonneg : -magnitude k ≤ n :=
        (neg_nonpos.mpr (magnitude_nonneg k)).trans (Nat.cast_nonneg n)
      simp [exceeds, hnonneg]

end SimSweep.Binary64
