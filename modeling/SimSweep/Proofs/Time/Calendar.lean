import SimSweep.Time.Calendar

/-! # The calendar and back

    Every day has a date of the calendar, and the date is that of no other day. A day of
    an era of four hundred years is taken apart into centuries, cycles of four years,
    years and the day of the year; only the last year of a cycle has a 366th day, and only
    the last cycle of the era has it at the end of a century. From these parts the year
    that is computed by three corrections and one division is read off, and the parts are
    put together again on the way back.
-/

namespace SimSweep.Date

/-! ## Section 1: The years of an era -/

/-- Day `d` of an era is day `t` of year `s` of cycle `q` of century `c`. -/
structure Cycles (d c q s t : Nat) : Prop where
  value : d = 36524 * c + 1461 * q + 365 * s + t
  century_le : c ≤ 3
  cycle_le : q ≤ 24
  year_le : s ≤ 3
  day_le : t ≤ 365
  /-- Only a leap year has a 366th day. -/
  leap : t = 365 → s = 3 ∧ (q = 24 → c = 3)

theorem exists_cycles {d : Nat} (h : d < 146097) : ∃ c q s t, Cycles d c q s t := by
  let c := min (d / 36524) 3
  let r := d - 36524 * c
  let q := r / 1461
  let u := r - 1461 * q
  let s := min (u / 365) 3
  refine ⟨c, q, s, u - 365 * s, ?_, ?_, ?_, ?_, ?_, ?_⟩ <;> omega

section Parts

variable {d c q s t : Nat} (h : Cycles d c q s t)

include h

/-- The last day of the era does not start a fifth century. -/
theorem Cycles.centuries : d / 36524 - d / 146096 = c := by
  obtain ⟨r, hr⟩ : ∃ r, r = 1461 * q + 365 * s + t := ⟨_, rfl⟩
  have hvalue := h.value
  have hcentury := h.century_le
  have hlt : r < 36524 ∨ c = 3 ∧ r = 36524 := by
    have hcycle := h.cycle_le
    have hyear := h.year_le
    have hday := h.day_le
    have hleap := h.leap
    omega
  obtain rfl : d = 36524 * c + r := by omega
  clear h hvalue hr
  rcases hlt with hlt | ⟨rfl, rfl⟩
  · have hcenturies : (36524 * c + r) / 36524 = c := by omega
    have hera : (36524 * c + r) / 146096 = 0 := by omega
    omega
  · rfl

/-- Counting in cycles without their leap day is one ahead at the end of some cycles, but
    not on the first day of a year, and always on a leap day. -/
theorem Cycles.cycles :
    d / 1460 = 25 * c + q ∧ t < 365 ∨ d / 1460 = 25 * c + q + 1 ∧ 0 < t := by
  have hvalue := h.value
  have hcentury := h.century_le
  have hcycle := h.cycle_le
  have hyear := h.year_le
  have hday := h.day_le
  have hleap := h.leap
  have hsplit : d = 1460 * (25 * c + q) + (24 * c + q + 365 * s + t) := by omega
  have hdiv : d / 1460 = 25 * c + q + (24 * c + q + 365 * s + t) / 1460 := by
    rw [hsplit, Nat.mul_add_div (by decide)]
  clear h hvalue hsplit
  by_cases hsmall : 24 * c + q + 365 * s + t < 1460
  · rw [Nat.div_eq_of_lt hsmall] at hdiv
    left
    omega
  · have hone : (24 * c + q + 365 * s + t) / 1460 = 1 := by omega
    rw [hone] at hdiv
    right
    omega

/-- The three corrections leave 365 days for each year before the one of the day. -/
theorem Cycles.yearOfEra :
    (d - d / 1460 + d / 36524 - d / 146096) / 365 = 100 * c + 4 * q + s := by
  have hcenturies := h.centuries
  have hcycles := h.cycles
  have hvalue := h.value
  have hday := h.day_le
  have hle : d / 146096 ≤ d / 36524 := Nat.div_le_div_left (by decide) (by decide)
  clear h
  generalize d / 36524 = a at *
  generalize d / 146096 = b at *
  generalize d / 1460 = e at *
  omega

/-- What is left of the day after the years before it. -/
theorem Cycles.dayOfYear :
    d - (365 * (100 * c + 4 * q + s) + (100 * c + 4 * q + s) / 4 - (100 * c + 4 * q + s) / 100) =
      t := by
  have hcycle := h.cycle_le
  have hyear := h.year_le
  have hvalue := h.value
  have hquarter : (100 * c + 4 * q + s) / 4 = 25 * c + q := by omega
  have hhundredth : (100 * c + 4 * q + s) / 100 = c := by omega
  rw [hquarter, hhundredth]
  omega

end Parts

/-! ## Section 2: The months of a year -/

/-- The number of months from March to the month of a day of the year. -/
def shiftedMonth (t : Nat) : Nat := (5 * t + 2) / 153

/-- The month of a day of a year that starts in March. -/
def monthOf (t : Nat) : Nat :=
  if shiftedMonth t < 10 then shiftedMonth t + 3 else shiftedMonth t - 9

/-- The day of the month of a day of the year. -/
def dayOf (t : Nat) : Nat := t - (153 * shiftedMonth t + 2) / 5 + 1

/-- The months follow the pattern of their lengths, and only the 366th day is a 29 February. -/
theorem month_and_day :
    ∀ t < 366, 1 ≤ monthOf t ∧ monthOf t ≤ 12 ∧ 1 ≤ dayOf t ∧
      (153 * ((monthOf t + 9) % 12) + 2) / 5 + dayOf t = t + 1 ∧
      dayOf t ≤ (if monthOf t = 2 then (if t = 365 then 29 else 28)
        else if monthOf t = 4 ∨ monthOf t = 6 ∨ monthOf t = 9 ∨ monthOf t = 11 then 30
        else 31) := by
  decide +kernel

/-! ## Section 3: Days and dates -/

/-- The parts of a day decide its date. The year starts in March, so January and February
    belong to the next one. -/
theorem exists_ofDays (days : Int) :
    ∃ (era : Int) (c q s t : Nat),
      Cycles (days + epochDays - era * eraDays).toNat c q s t ∧
      (days + epochDays - era * eraDays).toNat = days + epochDays - era * eraDays ∧
      ofDays days =
        ⟨if monthOf t ≤ 2 then ((100 * c + 4 * q + s : Nat) : Int) + era * 400 + 1
          else ((100 * c + 4 * q + s : Nat) : Int) + era * 400, monthOf t, dayOf t⟩ := by
  let era := (days + epochDays).fdiv eraDays
  have hera : era = (days + epochDays) / eraDays :=
    Int.fdiv_eq_ediv_of_nonneg _ (by decide)
  have hbounds : 0 ≤ days + epochDays - era * eraDays ∧
      days + epochDays - era * eraDays < 146097 := by
    rw [hera]
    unfold eraDays
    omega
  obtain ⟨c, q, s, t, h⟩ := exists_cycles (d := (days + epochDays - era * eraDays).toNat) (by omega)
  refine ⟨era, c, q, s, t, h, Int.toNat_of_nonneg hbounds.1, ?_⟩
  unfold ofDays
  simp only [show (days + epochDays).fdiv eraDays = era from rfl, h.yearOfEra, h.dayOfYear]
  rfl

theorem toDays_ofDays (days : Int) : (ofDays days).toDays = days := by
  obtain ⟨era, c, q, s, t, h, hnat, hdate⟩ := exists_ofDays days
  have hday := h.day_le
  obtain ⟨hmonth, hmonth', hpos, hback, -⟩ := month_and_day t (by omega)
  have hcentury := h.century_le
  have hcycle := h.cycle_le
  have hyear := h.year_le
  have hvalue := h.value
  rw [hvalue] at hnat
  rw [hdate]
  unfold toDays
  -- January and February go back to the year before
  have hshift : (if monthOf t ≤ 2 then
        (if monthOf t ≤ 2 then ((100 * c + 4 * q + s : Nat) : Int) + era * 400 + 1
          else ((100 * c + 4 * q + s : Nat) : Int) + era * 400) - 1
      else if monthOf t ≤ 2 then ((100 * c + 4 * q + s : Nat) : Int) + era * 400 + 1
        else ((100 * c + 4 * q + s : Nat) : Int) + era * 400) =
      ((100 * c + 4 * q + s : Nat) : Int) + era * 400 := by
    split <;> omega
  have hera : (((100 * c + 4 * q + s : Nat) : Int) + era * 400).fdiv 400 = era := by
    rw [Int.fdiv_eq_ediv_of_nonneg _ (by decide)]
    omega
  have hrest : ((100 * c + 4 * q + s : Nat) : Int) + era * 400 - era * 400 =
      ((100 * c + 4 * q + s : Nat) : Int) := by omega
  have hquarter : ((100 * c + 4 * q + s : Nat) : Int).fdiv 4 = 25 * c + q := by
    rw [Int.fdiv_eq_ediv_of_nonneg _ (by decide)]
    omega
  have hhundredth : ((100 * c + 4 * q + s : Nat) : Int).fdiv 100 = c := by
    rw [Int.fdiv_eq_ediv_of_nonneg _ (by decide)]
    omega
  simp only [hshift, hera, hrest, hquarter, hhundredth]
  unfold epochDays eraDays at *
  omega

/-- The date of a day exists: only a leap year has a 29 February. -/
theorem isValid_ofDays (days : Int) : (ofDays days).isValid = true := by
  obtain ⟨era, c, q, s, t, h, -, hdate⟩ := exists_ofDays days
  have hday := h.day_le
  obtain ⟨hmonth, hmonth', hpos, -, hlength⟩ := month_and_day t (by omega)
  rw [hdate]
  unfold isValid
  rw [decide_eq_true_iff]
  refine ⟨hmonth, hmonth', hpos, Nat.le_trans hlength ?_⟩
  unfold monthLength
  dsimp only
  by_cases hfebruary : monthOf t = 2
  · have hnext : monthOf t ≤ 2 := by omega
    rw [if_pos hfebruary, if_pos hfebruary, if_pos hnext]
    by_cases hlast : t = 365
    · -- the year ends its cycle, and its cycle does not end a century or ends the era
      obtain ⟨hs, hq⟩ := h.leap hlast
      have hleap : isLeapYear (((100 * c + 4 * q + s : Nat) : Int) + era * 400 + 1) = true := by
        have hcentury := h.century_le
        have hcycle := h.cycle_le
        unfold isLeapYear
        simp only [Bool.and_eq_true, Bool.or_eq_true, beq_iff_eq, bne_iff_ne, ne_eq]
        omega
      exact Nat.le_of_eq ((if_pos hlast).trans (if_pos hleap).symm)
    · rw [if_neg hlast]
      split <;> omega
  · exact Nat.le_of_eq ((if_neg hfebruary).trans (if_neg hfebruary).symm)

end SimSweep.Date
