import Mathlib.Tactic.Ring
import SimSweep.Number.Decimal
import SimSweep.Proofs.Number.Rank

/-! # Decimals and their ranks

    A decimal is a ratio, and its rank is that of the ratio: the two bounds between
    which powers of ten are formed at all leave room for every magnitude (`rank_eq_of_value`).
    So a decimal can be given more zeros and a smaller exponent at no cost, a magnitude
    written out in full has its own rank, and the shortest decimal of a magnitude
    converts back to it, whichever way it was found.
-/

namespace SimSweep.Decimal

open Binary64 (rankOfRatio steps scale stepBits)

/-! ## Section 1: Digits -/

theorem isDigit_of_mem_digitsOf {n : Nat} {c : Char} (h : c ∈ digitsOf n) : c.isDigit :=
  Nat.isDigit_of_mem_toDigits (by decide) (by decide) h

theorem length_digitsOf_pos (n : Nat) : 0 < (digitsOf n).length := Nat.length_toDigits_pos

theorem lt_pow_length (n : Nat) : n < Nat.pow 10 (digitsOf n).length :=
  (Nat.length_toDigits_le_iff (by decide) (length_digitsOf_pos n)).mp (Nat.le_refl _)

/-- A number other than zero has no digit too many. -/
theorem pow_length_sub_one_le {n : Nat} (hn : n ≠ 0) :
    Nat.pow 10 ((digitsOf n).length - 1) ≤ n := by
  by_cases hone : (digitsOf n).length - 1 = 0
  · rw [hone]
    exact Nat.pos_of_ne_zero hn
  · refine Nat.le_of_not_lt fun hlt => ?_
    have hle := (Nat.length_toDigits_le_iff (by decide) (Nat.pos_of_ne_zero hone)).mpr hlt
    have hpos := length_digitsOf_pos n
    unfold digitsOf at hpos hle hone
    omega

/-- Ten times a number has one zero more. -/
theorem digitsOf_mul_pow {m : Nat} (hm : m ≠ 0) (t : Nat) :
    digitsOf (m * Nat.pow 10 t) = digitsOf m ++ List.replicate t '0' := by
  induction t with
  | zero => rw [Nat.pow_eq, Nat.pow_zero, Nat.mul_one, List.replicate_zero, List.append_nil]
  | succ t ih =>
    have hshift : m * Nat.pow 10 (t + 1) = 10 * (m * Nat.pow 10 t) + 0 := by
      simp only [Nat.pow_eq]
      ring
    have hpos : 0 < m * Nat.pow 10 t :=
      Nat.mul_pos (Nat.pos_of_ne_zero hm) (Nat.pow_pos (by decide))
    have hdigits := Nat.toDigits_append_toDigits (b := 10) (d := 0) (by decide) hpos (by decide)
    unfold digitsOf at ih ⊢
    rw [hshift, ← hdigits, ih, List.replicate_succ', ← List.append_assoc]
    rfl

/-! ## Section 2: A decimal as a ratio -/

/-- The numerator of a decimal. -/
def numerator (d : Decimal) : Nat := d.coefficient * Nat.pow 10 d.exponent.toNat

/-- The denominator of a decimal. -/
def denominator (d : Decimal) : Nat := Nat.pow 10 (-d.exponent).toNat

/-- The place of the point, counted from the first digit. -/
def point (d : Decimal) : Int := (digitsOf d.coefficient).length + d.exponent

theorem denominator_pos (d : Decimal) : 0 < d.denominator := Nat.pow_pos (by decide)

/-- A power of ten that is not negative is part of the numerator. -/
theorem numerator_ofNat (c e : Nat) :
    numerator ⟨c, .ofNat e⟩ = c * Nat.pow 10 e ∧ denominator ⟨c, .ofNat e⟩ = 1 := by
  have hnone : (-Int.ofNat e).toNat = 0 := Int.toNat_neg_natCast e
  unfold denominator
  rw [hnone]
  exact ⟨rfl, rfl⟩

/-- A negative one is the denominator. -/
theorem denominator_negSucc (c e : Nat) :
    numerator ⟨c, .negSucc e⟩ = c ∧ denominator ⟨c, .negSucc e⟩ = Nat.pow 10 (e + 1) :=
  ⟨Nat.mul_one c, rfl⟩

theorem numerator_eq_zero_iff {d : Decimal} : d.numerator = 0 ↔ d.coefficient = 0 := by
  have hpow : 0 < Nat.pow 10 d.exponent.toNat := Nat.pow_pos (by decide)
  unfold numerator
  rw [Nat.mul_eq_zero, or_iff_left hpow.ne']

/-- The rank of a decimal is that of its ratio, unless the point is far off. -/
theorem rank_eq (d : Decimal) :
    d.rank =
      if d.coefficient = 0 then 0
      else if 400 < d.point then rankBound
      else if d.point < -400 then 0
      else rankOfRatio d.numerator d.denominator := by
  obtain ⟨c, e⟩ := d
  cases e with
  | ofNat e =>
    obtain ⟨hnumerator, hdenominator⟩ := numerator_ofNat c e
    rw [hnumerator, hdenominator]
    rfl
  | negSucc e =>
    obtain ⟨hnumerator, hdenominator⟩ := denominator_negSucc c e
    rw [hnumerator, hdenominator]
    rfl

/-- Only decimals with their point not far off convert to a magnitude other than zero. -/
theorem rank_eq_rankOfRatio {d : Decimal} (hzero : d.rank ≠ 0) (htop : d.rank < rankBound) :
    -400 ≤ d.point ∧ d.point ≤ 400 ∧ d.rank = rankOfRatio d.numerator d.denominator := by
  by_cases hc : d.coefficient = 0
  · exact absurd (by rw [rank_eq, if_pos hc]) hzero
  by_cases hfar : 400 < d.point
  · rw [rank_eq, if_neg hc, if_pos hfar] at htop
    exact absurd htop (Nat.lt_irrefl _)
  by_cases hnear : d.point < -400
  · exact absurd (by rw [rank_eq, if_neg hc, if_neg hfar, if_pos hnear]) hzero
  · exact ⟨Int.not_lt.mp hnear, Int.not_lt.mp hfar,
      by rw [rank_eq, if_neg hc, if_neg hfar, if_neg hnear]⟩

/-- Decimals of equal value, with the point in the same place, have one rank. -/
theorem rank_congr {d d' : Decimal} (hzero : d.coefficient = 0 ↔ d'.coefficient = 0)
    (hpoint : d.point = d'.point)
    (hvalue : d.numerator * d'.denominator = d'.numerator * d.denominator) :
    d.rank = d'.rank := by
  have hratio := Binary64.rankOfRatio_congr d.denominator_pos d'.denominator_pos hvalue
  simp only [rank_eq, hzero, hpoint, hratio]

/-- Zeros may be moved from the coefficient to the exponent. -/
theorem rank_mul_pow (c t : Nat) (e : Int) :
    rank ⟨c * Nat.pow 10 t, e⟩ = rank ⟨c, e + t⟩ := by
  by_cases hc : c = 0
  · subst hc
    simp [rank]
  apply rank_congr
  · simp [Nat.pow_eq, hc]
  · unfold point
    simp only [digitsOf_mul_pow hc, List.length_append, List.length_replicate]
    omega
  · -- both sides hold the same number of factors ten
    have hcount : t + e.toNat + (-(e + t)).toNat = (e + t).toNat + (-e).toNat := by omega
    unfold numerator denominator
    simp only [Nat.pow_eq, Nat.mul_assoc, ← Nat.pow_add]
    rw [hcount]

/-! ## Section 3: Decimals that are magnitudes -/

/-- Three bits are less than a digit. -/
theorem pow_two_le {b n : Nat} (h : b ≤ 3 * n) : Nat.pow 2 b ≤ Nat.pow 10 n := by
  calc 2 ^ b ≤ 2 ^ (3 * n) := Nat.pow_le_pow_right (by decide) h
    _ = (2 ^ 3) ^ n := Nat.pow_mul 2 3 n
    _ ≤ 10 ^ n := Nat.pow_le_pow_left (by decide) n

theorem scale_le_pow {n : Nat} (hn : 1074 ≤ 3 * n) : scale ≤ Nat.pow 10 n := by
  rw [Binary64.scale_eq]
  apply pow_two_le
  unfold stepBits
  exact hn

theorem steps_lt_mul_pow {k n : Nat} (hk : k < rankBound) (hn : 1024 ≤ 3 * n) :
    steps k < scale * Nat.pow 10 n := by
  calc steps k < Nat.pow 2 (stepBits + 3 * n) :=
        Binary64.steps_lt hk (Nat.add_le_add_left hn stepBits)
    _ = scale * Nat.pow 2 (3 * n) := by
        rw [Binary64.scale_eq]
        exact Nat.pow_add 2 stepBits (3 * n)
    _ ≤ scale * Nat.pow 10 n := Nat.mul_le_mul_left scale (pow_two_le (Nat.le_refl _))

section Value

variable {d : Decimal} {k : Nat}

/-- No decimal up to twice a magnitude has its point far behind the first digit. -/
theorem point_le (hk : k < rankBound) (hc : d.coefficient ≠ 0)
    (h : d.numerator * scale ≤ 2 * (steps k * d.denominator)) : d.point ≤ 400 := by
  have hdigits := length_digitsOf_pos d.coefficient
  -- a name keeps the power from being worked out
  obtain ⟨n, hn⟩ : ∃ n, n = 342 := ⟨342, rfl⟩
  have htwo : 2 * Nat.pow 10 n ≤ Nat.pow 10 (n + 1) := by
    calc 2 * 10 ^ n ≤ 10 * 10 ^ n := Nat.mul_le_mul_right _ (by decide)
      _ = 10 ^ (n + 1) := by rw [Nat.pow_succ, Nat.mul_comm]
  have hlt :
      Nat.pow 10 ((digitsOf d.coefficient).length - 1 + d.exponent.toNat) * scale <
        Nat.pow 10 (n + 1 + (-d.exponent).toNat) * scale := by
    calc 10 ^ ((digitsOf d.coefficient).length - 1 + d.exponent.toNat) * scale
        = 10 ^ ((digitsOf d.coefficient).length - 1) * 10 ^ d.exponent.toNat * scale := by
          rw [Nat.pow_add]
      _ ≤ d.coefficient * 10 ^ d.exponent.toNat * scale :=
          Nat.mul_le_mul_right _ (Nat.mul_le_mul_right _ (pow_length_sub_one_le hc))
      _ ≤ 2 * (steps k * d.denominator) := h
      _ < 2 * (scale * Nat.pow 10 n * d.denominator) :=
          Nat.mul_lt_mul_of_pos_left
            (Nat.mul_lt_mul_of_pos_right (steps_lt_mul_pow hk (by omega)) d.denominator_pos)
            (by decide)
      _ = 2 * Nat.pow 10 n * (d.denominator * scale) := by ring
      _ ≤ Nat.pow 10 (n + 1) * (d.denominator * scale) := Nat.mul_le_mul_right _ htwo
      _ = 10 ^ (n + 1 + (-d.exponent).toNat) * scale := by
          rw [Nat.pow_add _ (n + 1), Nat.mul_assoc]
          rfl
  have hexponent := (Nat.pow_lt_pow_iff_right (by decide)).mp (Nat.lt_of_mul_lt_mul_right hlt)
  unfold point
  omega

/-- No decimal down to half a magnitude other than zero has its point far before the first
    digit. -/
theorem le_point (hk : k ≠ 0) (h : steps k * d.denominator ≤ 2 * (d.numerator * scale)) :
    -400 ≤ d.point := by
  have hsteps : 0 < steps k := Nat.pos_of_ne_zero fun hs => hk (Binary64.steps_eq_zero_iff.mp hs)
  obtain ⟨n, hn⟩ : ∃ n, n = 358 := ⟨358, rfl⟩
  have hlt :
      Nat.pow 10 (-d.exponent).toNat <
        Nat.pow 10 ((digitsOf d.coefficient).length + d.exponent.toNat + (n + 1)) := by
    have htwo : 2 * scale ≤ Nat.pow 10 (n + 1) := by
      calc 2 * scale ≤ 10 * Nat.pow 10 n := Nat.mul_le_mul (by decide) (scale_le_pow (by omega))
        _ = 10 ^ (n + 1) := (Nat.pow_succ').symm
    calc d.denominator ≤ steps k * d.denominator := Nat.le_mul_of_pos_left _ hsteps
      _ ≤ 2 * (d.coefficient * 10 ^ d.exponent.toNat * scale) := h
      _ = d.coefficient * 10 ^ d.exponent.toNat * (2 * scale) := by ring
      _ < 10 ^ (digitsOf d.coefficient).length * 10 ^ d.exponent.toNat * (2 * scale) :=
          Nat.mul_lt_mul_of_pos_right
            (Nat.mul_lt_mul_of_pos_right (lt_pow_length d.coefficient) (Nat.pow_pos (by decide)))
            (Nat.mul_pos (by decide) Binary64.scale_pos)
      _ ≤ 10 ^ (digitsOf d.coefficient).length * 10 ^ d.exponent.toNat * Nat.pow 10 (n + 1) :=
          Nat.mul_le_mul_left _ htwo
      _ = 10 ^ ((digitsOf d.coefficient).length + d.exponent.toNat + (n + 1)) := by
          rw [Nat.pow_add, Nat.pow_add _ _ d.exponent.toNat]
          rfl
  have hexponent := (Nat.pow_lt_pow_iff_right (by decide)).mp hlt
  unfold point
  omega

/-- A decimal whose value is a magnitude has its rank. -/
theorem rank_eq_of_value (hk : k < rankBound)
    (h : d.numerator * scale = steps k * d.denominator) : d.rank = k := by
  have hzero : d.coefficient = 0 ↔ k = 0 := by
    rw [← numerator_eq_zero_iff, ← Binary64.steps_eq_zero_iff (k := k)]
    constructor
    · intro hn
      rw [hn, Nat.zero_mul] at h
      exact (Nat.mul_eq_zero.mp h.symm).resolve_right d.denominator_pos.ne'
    · intro hs
      rw [hs, Nat.zero_mul] at h
      exact (Nat.mul_eq_zero.mp h).resolve_right Binary64.scale_pos.ne'
  rw [rank_eq]
  by_cases hk0 : k = 0
  · rw [if_pos (hzero.mpr hk0), hk0]
  · have hc : d.coefficient ≠ 0 := fun hc => hk0 (hzero.mp hc)
    have hle := point_le hk hc (by rw [h]; exact Nat.le_mul_of_pos_left _ (by decide))
    have hge := le_point hk0 (by rw [h]; exact Nat.le_mul_of_pos_left _ (by decide))
    rw [if_neg hc, if_neg (Int.not_lt.mpr hle), if_neg (Int.not_lt.mpr hge)]
    exact Binary64.rankOfRatio_eq d.denominator_pos h

end Value

/-! ## Section 4: The shortest decimal -/

/-- A magnitude written out in full has the value of the magnitude. -/
theorem exact_value (k : Nat) :
    (exact k).numerator * scale = steps k * (exact k).denominator := by
  -- what is cut off the doublings is what the places make up for
  have hbits : Binary64.doublings k - 1074 + stepBits =
      Binary64.doublings k + (1074 - Binary64.doublings k) := by
    unfold stepBits
    omega
  have hneg : (-((1074 - Binary64.doublings k : Nat) : Int)).toNat = 0 := Int.toNat_neg_natCast _
  have hpos : (-(-((1074 - Binary64.doublings k : Nat) : Int))).toNat =
      1074 - Binary64.doublings k := by
    rw [Int.neg_neg, Int.toNat_natCast]
  unfold numerator denominator exact steps
  simp only [hneg, hpos, Binary64.scale_eq]
  simp only [Nat.pow_eq, Nat.pow_zero, Nat.mul_one]
  generalize Binary64.doublings k - 1074 = cut at hbits ⊢
  generalize 1074 - Binary64.doublings k = places at hbits ⊢
  generalize stepBits = bits at hbits ⊢
  calc Binary64.significand k * 2 ^ cut * 5 ^ places * 2 ^ bits
      = Binary64.significand k * 2 ^ (cut + bits) * 5 ^ places := by rw [Nat.pow_add]; ring
    _ = Binary64.significand k * 2 ^ Binary64.doublings k * (2 * 5) ^ places := by
        rw [hbits, Nat.pow_add, Nat.mul_pow]
        ring

theorem rank_exact {k : Nat} (hk : k < rankBound) : (exact k).rank = k :=
  rank_eq_of_value hk (exact_value k)

/-- A cut leaves one of the two neighbours, and only if it converts back. -/
theorem of_cutAt?_eq_some {tie : Tie} {k cut : Nat} {e d : Decimal}
    (h : cutAt? tie k e cut = some d) :
    d.rank = k ∧ (d = ⟨e.coefficient / Nat.pow 10 cut, e.exponent + cut⟩ ∨
      d = ⟨e.coefficient / Nat.pow 10 cut + 1, e.exponent + cut⟩) := by
  unfold cutAt? at h
  extract_lets unit lower upper rest prefersUpper at h
  -- whichever neighbour comes first, both are tried
  split_ifs at h with hprefers
  · dsimp only at h
    split_ifs at h with hupper hlower
    · exact ⟨Option.some.inj h ▸ hupper, .inr (Option.some.inj h).symm⟩
    · exact ⟨Option.some.inj h ▸ hlower, .inl (Option.some.inj h).symm⟩
  · dsimp only at h
    split_ifs at h with hlower hupper
    · exact ⟨Option.some.inj h ▸ hlower, .inl (Option.some.inj h).symm⟩
    · exact ⟨Option.some.inj h ▸ hupper, .inr (Option.some.inj h).symm⟩

/-- The shortest decimal of a magnitude converts back to it. -/
theorem rank_shortest (tie : Tie) {k : Nat} (hk : k < rankBound) : (shortest tie k).rank = k := by
  unfold shortest
  simp only []
  cases hfound : (List.range 17).findSome? fun i =>
      cutAt? tie k (exact k) ((digitsOf (exact k).coefficient).length - (i + 1)) with
  | none => exact rank_exact hk
  | some d =>
    obtain ⟨i, _, hi⟩ := List.exists_of_findSome?_eq_some hfound
    exact (of_cutAt?_eq_some hi).1

/-- The shortest decimal of a magnitude other than zero is not zero. -/
theorem coefficient_shortest_ne_zero (tie : Tie) {k : Nat} (hk : k < rankBound) (h : k ≠ 0) :
    (shortest tie k).coefficient ≠ 0 := by
  intro hc
  refine h ?_
  rw [← rank_shortest tie hk, rank_eq, if_pos hc]

end SimSweep.Decimal
