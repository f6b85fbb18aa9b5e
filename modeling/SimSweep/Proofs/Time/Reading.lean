import SimSweep.Proofs.Number.RoundTrip
import SimSweep.Proofs.Time.Calendar
import SimSweep.Time.Reading

/-! # Timestamps read back

    The text of an instant is read as this instant, to the nanosecond and in a leap second
    too, as long as its year is one of those that can be read at all. Every number in the
    text has a fixed width or stands in front of a mark, so no number runs into the next.
-/

namespace SimSweep

theorem isBlank_of_isDigit {c : Char} (h : c.isDigit) : isBlank c = false := by
  have hbounds : 48 ≤ c.toNat ∧ c.toNat ≤ 57 := Char.isDigit_iff_toNat.mp h
  unfold isBlank blankIntervals
  simp only [List.any_cons, List.any_nil, Bool.or_false, Bool.or_eq_false_iff,
    decide_eq_false_iff_not]
  omega

@[simp] theorem trimStart_cons {c : Char} (h : isBlank c = false) (cs : List Char) :
    trimStart (c :: cs) = c :: cs := by
  unfold trimStart
  rw [List.dropWhile_cons_of_neg (by simp [h])]

namespace Timestamp

/-! ## Section 1: Numbers of a fixed width -/

section Padded

variable {width n : Nat}

theorem isDigit_of_mem_padded {c : Char} (h : c ∈ padded width n) : c.isDigit :=
  (List.mem_append.mp h).elim Decimal.isDigit_of_mem_zeros Decimal.isDigit_of_mem_digitsOf

@[simp] theorem valueOf_padded : Decimal.valueOf (padded width n) = n := by
  unfold padded padLeft
  rw [Decimal.valueOf_zeros_append, Decimal.valueOf_digitsOf]

theorem length_padded (hwidth : 0 < width) (h : n < Nat.pow 10 width) :
    (padded width n).length = width := by
  have hle : (Decimal.digitsOf n).length ≤ width :=
    (Nat.length_toDigits_le_iff (by decide) hwidth).mpr h
  unfold padded padLeft
  rw [List.length_append, List.length_replicate]
  omega

theorem padded_ne_nil : padded width n ≠ [] := by
  have hpos := Decimal.length_digitsOf_pos n
  unfold padded padLeft
  intro hnil
  have hlength := congrArg List.length hnil
  rw [List.length_append, List.length_nil] at hlength
  omega

/-- A number is not preceded by blanks. -/
theorem exists_padded_eq_cons (width n : Nat) :
    ∃ d ds, padded width n = d :: ds ∧ d.isDigit := by
  have hne : padded width n ≠ [] := padded_ne_nil
  obtain ⟨d, ds, hcons⟩ := List.exists_cons_of_ne_nil hne
  exact ⟨d, ds, hcons, isDigit_of_mem_padded (hcons ▸ List.mem_cons_self)⟩

theorem trimStart_padded (rest : List Char) :
    trimStart (padded width n ++ rest) = padded width n ++ rest := by
  obtain ⟨d, ds, hcons, hdigit⟩ := exists_padded_eq_cons width n
  rw [hcons, List.cons_append, trimStart_cons (isBlank_of_isDigit hdigit)]

/-- Digits are read up to the width or up to what is not a digit. -/
theorem readNumber?_digits {ds rest : List Char} (hne : ds ≠ []) (hdigits : ∀ c ∈ ds, c.isDigit)
    (hle : ds.length ≤ width)
    (hend : ds.length = width ∨ ∀ c ∈ rest.head?, ¬ c.isDigit) :
    readNumber? width (ds ++ rest) = some (Decimal.valueOf ds, rest) := by
  have hspan : ((ds ++ rest).take width).takeWhile Char.isDigit = ds := by
    rw [List.take_append, List.take_of_length_le hle, List.takeWhile_append_of_pos hdigits]
    rcases hend with hfull | hstop
    · rw [hfull, Nat.sub_self, List.take_zero, List.takeWhile_nil, List.append_nil]
    · cases rest with
      | nil => simp
      | cons c cs =>
        have hc := hstop c rfl
        cases width - ds.length <;> simp [hc]
  unfold readNumber?
  simp only [hspan, List.isEmpty_eq_false_iff.mpr hne, Bool.false_eq_true, if_false,
    List.drop_left]

theorem readNumber?_padded (hwidth : 0 < width) (h : n < Nat.pow 10 width) (rest : List Char) :
    readNumber? width (padded width n ++ rest) = some (n, rest) := by
  have hlength := length_padded hwidth h
  rw [readNumber?_digits padded_ne_nil (fun c => isDigit_of_mem_padded)
    (Nat.le_of_eq hlength) (.inl hlength), valueOf_padded]

theorem readField?_padded {lo hi : Nat} (hlo : lo ≤ n) (hhi : n ≤ hi) (hhundred : hi < 100)
    (rest : List Char) : readField? lo hi (padded 2 n ++ rest) = some (n, rest) := by
  have hread : readNumber? 2 (padded 2 n ++ rest) = some (n, rest) :=
    readNumber?_padded (by decide) (by norm_num; omega) rest
  unfold readField?
  rw [trimStart_padded, hread]
  simp [hlo, hhi]

end Padded

theorem readMark?_cons {mark : Char} (h : isBlank mark = false) (rest : List Char) :
    readMark? mark (mark :: rest) = some rest := by
  unfold readMark?
  rw [trimStart_cons h]
  simp

/-! ## Section 2: The date -/

/-- A year is read up to the mark behind it. -/
theorem readYear?_yearText (year : Int) (rest : List Char) :
    readYear? (yearText year ++ '-' :: rest) = some (year, '-' :: rest) := by
  have hstop : ∀ c ∈ ('-' :: rest).head?, ¬ c.isDigit := by simp
  unfold yearText
  split
  · next hyear =>
    -- four digits
    have hread : readNumber? 4 (padded 4 year.natAbs ++ '-' :: rest) =
        some (year.natAbs, '-' :: rest) :=
      readNumber?_padded (by decide) (by norm_num; omega) ('-' :: rest)
    obtain ⟨d, ds, hcons, hdigit⟩ := exists_padded_eq_cons 4 year.natAbs
    unfold readYear?
    rw [trimStart_padded]
    rw [hcons] at hread ⊢
    split
    · next heq => exact absurd hdigit (by rw [(List.cons.inj heq).1]; decide)
    · next heq => exact absurd hdigit (by rw [(List.cons.inj heq).1]; decide)
    · rw [hread]
      simp only [Option.map_some]
      congr 2
      omega
  · next hyear =>
    -- a sign and any number of digits
    have hread : readNumber? (padded 4 year.natAbs ++ '-' :: rest).length
        (padded 4 year.natAbs ++ '-' :: rest) = some (year.natAbs, '-' :: rest) := by
      rw [readNumber?_digits padded_ne_nil (fun c => isDigit_of_mem_padded) (by simp)
        (.inr hstop), valueOf_padded]
    unfold readYear?
    by_cases hneg : year < 0
    · rw [if_pos hneg, List.cons_append, trimStart_cons (by decide)]
      simp only [hread, Option.map_some]
      congr 2
      omega
    · rw [if_neg hneg, List.cons_append, trimStart_cons (by decide)]
      simp only [hread, Option.map_some]
      congr 2
      omega

theorem readDate?_date {d : Date} (hvalid : d.isValid = true) (hknown : isKnownYear d.year = true)
    (rest : List Char) :
    readDate? (yearText d.year ++ '-' :: padded 2 d.month ++ '-' :: padded 2 d.day ++ rest) =
      some (d, rest) := by
  obtain ⟨hmonth, hmonth', hday, hday'⟩ : 1 ≤ d.month ∧ d.month ≤ 12 ∧ 1 ≤ d.day ∧
      d.day ≤ Date.monthLength d.year d.month := by
    unfold Date.isValid at hvalid
    exact of_decide_eq_true hvalid
  have hlast : d.day ≤ 31 := by
    refine Nat.le_trans hday' ?_
    unfold Date.monthLength
    split
    · split <;> decide
    · split <;> decide
  have htext : yearText d.year ++ '-' :: padded 2 d.month ++ '-' :: padded 2 d.day ++ rest =
      yearText d.year ++ '-' :: (padded 2 d.month ++ '-' :: (padded 2 d.day ++ rest)) := by
    simp
  have hdash : isBlank '-' = false := by decide
  unfold readDate?
  rw [htext, readYear?_yearText]
  simp only [Option.bind_eq_bind, Option.bind_some, readMark?_cons hdash,
    readField?_padded hmonth hmonth' (by decide), readField?_padded hday hlast (by decide)]
  rw [if_pos ⟨hvalid, hknown⟩]

/-! ## Section 3: The time of day -/

theorem readFraction?_padded {places n : Nat} (hpos : 0 < places) (hle : places ≤ 9)
    (hn : n < Nat.pow 10 places) {rest : List Char} (hrest : ∀ c ∈ rest.head?, ¬ c.isDigit) :
    readFraction? ('.' :: padded places n ++ rest) =
      some (n * Nat.pow 10 (9 - places), rest) := by
  have hspan : Decimal.spanDigits (padded places n ++ rest) = (padded places n, rest) := by
    rw [Decimal.spanDigits_append fun c => isDigit_of_mem_padded]
    cases rest with
    | nil => simp [Decimal.spanDigits]
    | cons c cs => simp [Decimal.spanDigits, hrest c rfl]
  have hlength := length_padded hpos hn
  unfold readFraction?
  simp only [List.cons_append, hspan, List.isEmpty_eq_false_iff.mpr padded_ne_nil,
    Bool.false_eq_true, if_false]
  rw [List.take_of_length_le (by omega), hlength, valueOf_padded]

/-- The part below a second is read up to what is neither a digit nor a point. -/
theorem readFraction?_fractionText {nanos : Nat} (h : nanos < Nat.pow 10 9) {rest : List Char}
    (hrest : ∀ c ∈ rest.head?, ¬ c.isDigit ∧ c ≠ '.') :
    readFraction? (fractionText nanos ++ rest) = some (nanos, rest) := by
  have hstop : ∀ c ∈ rest.head?, ¬ c.isDigit := fun c hc => (hrest c hc).1
  have hmillion : Nat.pow 10 6 = 1000000 := rfl
  have hthousand : Nat.pow 10 3 = 1000 := rfl
  have hbillion : Nat.pow 10 9 = 1000000000 := rfl
  rw [hbillion] at h
  unfold fractionText
  simp only [hmillion, hthousand]
  split_ifs with hzero hmilli hmicro
  · subst hzero
    rw [List.nil_append]
    unfold readFraction?
    split
    · exact absurd rfl (hrest '.' rfl).2
    · rfl
  · have hvalue : nanos / 1000000 * Nat.pow 10 (9 - 3) = nanos := Nat.div_mul_cancel
      (Nat.dvd_of_mod_eq_zero hmilli)
    rw [readFraction?_padded (by decide) (by decide) (by rw [hthousand]; omega) hstop, hvalue]
  · have hvalue : nanos / 1000 * Nat.pow 10 (9 - 6) = nanos := Nat.div_mul_cancel
      (Nat.dvd_of_mod_eq_zero hmicro)
    rw [readFraction?_padded (by decide) (by decide) (by rw [hmillion]; omega) hstop, hvalue]
  · have hvalue : nanos * Nat.pow 10 (9 - 9) = nanos := Nat.mul_one nanos
    rw [readFraction?_padded (by decide) (by decide) (by rw [hbillion]; exact h) hstop, hvalue]

/-- The instants that have a text that can be read: those of the known years, with
    nanoseconds beyond one second only at the end of a minute, in a leap second. -/
structure IsKnown (t : Timestamp) : Prop where
  year : isKnownYear t.date.year = true
  nanos : t.nanos < Nat.pow 10 9 ∨ t.nanos < 2 * Nat.pow 10 9 ∧ t.secondOfDay % 60 = 59

theorem secondOfDay_lt (t : Timestamp) : t.secondOfDay < 86400 := by
  unfold secondOfDay daySeconds
  rw [Int.fmod_eq_emod_of_nonneg _ (by decide)]
  omega

/-- In a leap second the nanoseconds hold one second more. -/
theorem IsKnown.second {t : Timestamp} (h : t.IsKnown) :
    t.nanos / Nat.pow 10 9 = 0 ∧ t.nanos % Nat.pow 10 9 = t.nanos ∨
      t.nanos / Nat.pow 10 9 = 1 ∧ t.nanos % Nat.pow 10 9 + Nat.pow 10 9 = t.nanos ∧
        t.secondOfDay % 60 = 59 := by
  have hbillion : Nat.pow 10 9 = 1000000000 := rfl
  have hnanos := h.nanos
  rw [hbillion] at hnanos ⊢
  omega

theorem readClock?_clockText {t : Timestamp} (h : t.IsKnown) {rest : List Char}
    (hrest : ∀ c ∈ rest.head?, ¬ c.isDigit ∧ c ≠ '.') :
    readClock? (t.clockText ++ fractionText (t.nanos % Nat.pow 10 9) ++ rest) =
      some (t.secondOfDay, t.nanos, rest) := by
  have hlt := t.secondOfDay_lt
  have hfraction := readFraction?_fractionText (Nat.mod_lt t.nanos (by decide)) hrest
  have hsecond := h.second
  have htext : t.clockText ++ fractionText (t.nanos % Nat.pow 10 9) ++ rest =
      padded 2 (t.secondOfDay / 3600) ++ ':' :: (padded 2 (t.secondOfDay / 60 % 60) ++ ':' ::
        (padded 2 (t.secondOfDay % 60 + t.nanos / Nat.pow 10 9) ++
          (fractionText (t.nanos % Nat.pow 10 9) ++ rest))) := by
    unfold clockText
    simp
  have hhours : ∀ rest, readField? 0 23 (padded 2 (t.secondOfDay / 3600) ++ rest) =
      some (t.secondOfDay / 3600, rest) :=
    readField?_padded (by omega) (by omega) (by decide)
  have hminutes : ∀ rest, readField? 0 59 (padded 2 (t.secondOfDay / 60 % 60) ++ rest) =
      some (t.secondOfDay / 60 % 60, rest) :=
    readField?_padded (by omega) (by omega) (by decide)
  have hseconds : ∀ rest, readField? 0 60
      (padded 2 (t.secondOfDay % 60 + t.nanos / Nat.pow 10 9) ++ rest) =
        some (t.secondOfDay % 60 + t.nanos / Nat.pow 10 9, rest) :=
    readField?_padded (by omega) (by omega) (by decide)
  have hcolon : isBlank ':' = false := by decide
  unfold readClock?
  rw [htext]
  simp only [Option.bind_eq_bind, Option.bind_some, readMark?_cons hcolon, hhours, hminutes,
    hseconds, hfraction]
  -- only a leap second shows as second 60
  rcases hsecond with ⟨hquotient, hremainder⟩ | ⟨hquotient, hremainder, hlast⟩
  · have hnone : ¬ t.secondOfDay % 60 = 60 := by omega
    have hday : t.secondOfDay / 3600 * 3600 + t.secondOfDay / 60 % 60 * 60 +
        t.secondOfDay % 60 = t.secondOfDay := by omega
    simp only [hquotient, hremainder, Nat.add_zero, if_neg hnone, hday, Nat.zero_mul, Nat.sub_zero]
  · have hleap : t.secondOfDay % 60 + t.nanos / Nat.pow 10 9 = 60 := by omega
    have hday : t.secondOfDay / 3600 * 3600 + t.secondOfDay / 60 % 60 * 60 + 60 - 1 =
        t.secondOfDay := by omega
    simp only [hleap, if_true, hday, Nat.one_mul, hremainder]

/-! ## Section 4: Instants -/

/-- The text of an instant is read as the instant. -/
theorem read?_text {t : Timestamp} (h : t.IsKnown) : read? t.text = some t := by
  have hdate := readDate?_date (d := t.date) (Date.isValid_ofDays _) h.year
    ('T' :: (t.clockText ++ fractionText (t.nanos % Nat.pow 10 9) ++ ['Z']))
  have hend : ∀ c ∈ ['Z'].head?, ¬ c.isDigit ∧ c ≠ '.' := by simp
  have hclock := readClock?_clockText h hend
  have hoffset : readOffset? (trimStart ['Z']) = some (0, []) := by decide
  have htext : t.text = yearText t.date.year ++ '-' :: padded 2 t.date.month ++ '-' ::
      padded 2 t.date.day ++
        ('T' :: (t.clockText ++ fractionText (t.nanos % Nat.pow 10 9) ++ ['Z'])) := by
    unfold text
    simp
  have hdays : t.date.toDays = t.seconds.fdiv daySeconds := Date.toDays_ofDays _
  have hseconds :
      t.seconds.fdiv daySeconds * daySeconds + (t.secondOfDay : Int) - 0 = t.seconds := by
    unfold secondOfDay daySeconds
    rw [Int.fmod_eq_emod_of_nonneg _ (by decide), Int.fdiv_eq_ediv_of_nonneg _ (by decide)]
    omega
  unfold read?
  rw [htext, hdate]
  simp only [Option.bind_eq_bind, Option.bind_some, true_or, if_true, hclock, hoffset, hdays,
    hseconds, List.all_nil, h.year, and_self]

end Timestamp

end SimSweep
