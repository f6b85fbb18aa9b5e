import SimSweep.Proofs.Json.Numeral
import SimSweep.Proofs.Number.Digits

/-! # Every finite number is read

    The numeral of a finite number is read as some number: its text has the shape of a
    numeral, whose digits fit 64 bits, and its value is never out of range. Reading rounds
    the digits, a power of ten and the product of the two, so it need not come back to the
    number that was written. For all magnitudes but the two largest these errors are too
    small to reach infinity, and the two are looked at one by one.
-/

namespace SimSweep.Json

open Binary64 (StaysFinite magnitudeText)

/-! ## Section 1: The value of a numeral -/

/-- What an exponent adds to the power of ten of a numeral. -/
def Exponent.shift (x : Exponent) : Int := if x.negative then -x.value else x.value

/-- The decimal that a numeral writes. -/
def Numeral.decimal (n : Numeral) : Decimal :=
  ⟨Decimal.valueOf (n.whole ++ n.fraction.getD []),
    n.exponent.elim 0 Exponent.shift - (n.fraction.getD []).length⟩

/-- A decimal that stays finite is scaled to a magnitude. -/
theorem exists_scaledRank? {d : Decimal} (h : StaysFinite d.numerator d.denominator) :
    ∃ k, scaledRank? d.coefficient d.exponent = some k := by
  obtain ⟨c, e⟩ := d
  cases e with
  | negSucc e => exact ⟨_, rfl⟩
  | ofNat e =>
    have hfinite : StaysFinite (c * Nat.pow 10 e) 1 := by
      obtain ⟨hnumerator, hdenominator⟩ := Decimal.numerator_ofNat c e
      rw [hnumerator, hdenominator] at h
      exact h
    unfold scaledRank?
    dsimp only
    by_cases he : e ≤ powerLimit
    · exact ⟨_, by rw [if_pos he, if_pos]; exact hfinite.rankOfProduct_lt⟩
    · -- only zero may be scaled by so much
      have hc : c = 0 := by
        by_contra hc
        exact he (hfinite.exponent_le hc)
      exact ⟨0, by rw [if_neg he, hc, Binary64.rankOfRatio_zero, if_pos rfl]⟩

/-- A numeral that is not that of a whole number has a point or an exponent. -/
def Numeral.IsMarked (n : Numeral) : Prop := n.fraction ≠ none ∨ n.exponent ≠ none

/-- The digits of a numeral are taken in one after the other, if they fit 64 bits. -/
theorem Numeral.absorb_eq {n : Numeral} (hfits : n.decimal.coefficient ≤ wordLimit) :
    absorb wordLimit 0 n.whole = (Decimal.valueOf n.whole, []) ∧
      absorb wordLimit (Decimal.valueOf n.whole) (n.fraction.getD []) =
        (n.decimal.coefficient, []) := by
  have hvalue : Nat.ofDigitChars 10 (n.fraction.getD []) (Decimal.valueOf n.whole) =
      n.decimal.coefficient := (Nat.ofDigitChars_append ..).symm
  have hwhole : Decimal.valueOf n.whole ≤ wordLimit := by
    have hpow : 0 < Nat.pow 10 (n.fraction.getD []).length := Nat.pow_pos (by decide)
    have hgrows := mul_pow_le_ofDigitChars (n.fraction.getD []) (Decimal.valueOf n.whole)
    rw [hvalue] at hgrows
    exact Nat.le_trans (Nat.le_mul_of_pos_right _ hpow) (Nat.le_trans hgrows hfits)
  refine ⟨absorb_digits n.whole 0 hwhole, ?_⟩
  rw [absorb_digits _ _ (by rw [hvalue]; exact hfits), hvalue]

/-- The number of a numeral whose digits fit 64 bits is its decimal, scaled. -/
theorem Numeral.IsWritten.number_eq {n : Numeral} (h : n.IsWritten) (hmarked : n.IsMarked)
    (hfits : n.decimal.coefficient ≤ wordLimit) {k : Nat}
    (hscaled : scaledRank? n.decimal.coefficient n.decimal.exponent = some k)
    (negative : Bool) (rest : List Char) :
    n.number negative rest = .ok (.float (Binary64.ofRank negative k)) := by
  obtain ⟨hall, habsorb⟩ := Numeral.absorb_eq hfits
  have hshift : ((([] : List Char).length : Int) -
      (((n.fraction.getD []).length - ([] : List Char).length : Nat) : Int)) =
        -((n.fraction.getD []).length : Int) := by
    rw [List.length_nil, Nat.sub_zero, Int.natCast_zero, Int.zero_sub]
  have hexponent : n.decimal.exponent =
      n.exponent.elim 0 Exponent.shift + -((n.fraction.getD []).length : Int) := rfl
  rw [hexponent, ← hshift] at hscaled
  generalize n.decimal.coefficient = taken at habsorb hscaled
  obtain ⟨whole, fraction, exponent⟩ := n
  cases exponent with
  | none =>
    cases fraction with
    | none => exact absurd hmarked (by simp [IsMarked])
    | some fs =>
      rw [Option.elim_none, Int.zero_add] at hscaled
      unfold Numeral.number
      rw [hall]
      dsimp only at habsorb hscaled ⊢
      rw [habsorb]
      dsimp only
      rw [hscaled]
  | some x =>
    obtain ⟨minus, value, excess⟩ := x
    obtain rfl : excess = none := (h.exponent _ rfl).2
    have hsum : ∀ shift : Int, (if minus then shift - value else shift + value) =
        Exponent.shift ⟨minus, value, none⟩ + shift := by
      intro shift
      simp only [Exponent.shift]
      split <;> omega
    rw [Option.elim_some, ← hsum] at hscaled
    unfold Numeral.number
    rw [hall]
    -- the fraction decides which equation of the match applies
    cases fraction with
    | none =>
      dsimp only at habsorb hscaled ⊢
      rw [habsorb]
      dsimp only
      rw [hscaled]
    | some fs =>
      dsimp only at habsorb hscaled ⊢
      rw [habsorb]
      dsimp only
      rw [hscaled]

/-! ## Section 2: The text of a finite number -/

section Shapes

variable {d : Char} {ds : List Char} (hdigits : ∀ c ∈ d :: ds, c.isDigit) {e : Int}

include hdigits

/-- Digits and zeros, with a point and one more zero behind them. -/
theorem exists_numeral_whole (hd : d ≠ '0') (e : Nat) :
    ∃ n : Numeral, n.IsWritten ∧ n.IsMarked ∧
      Decimal.positional (d :: ds) (.ofNat e) ++ ['.', '0'] = n.text ∧
      n.decimal = ⟨Decimal.valueOf (d :: ds) * Nat.pow 10 (e + 1), -1⟩ := by
  refine ⟨⟨d :: ds ++ List.replicate e '0', some ['0'], none⟩, ⟨?_, ?_, ?_, ?_⟩, .inl (by simp),
    ?_, ?_⟩
  · exact ⟨d, ds ++ List.replicate e '0', rfl, fun hzero => absurd hzero hd⟩
  · intro c hc
    exact (List.mem_append.mp hc).elim (hdigits c) Decimal.isDigit_of_mem_zeros
  · simp
  · simp
  · rw [Decimal.positional_ofNat]
    simp [Numeral.text]
  · have hzeros : d :: ds ++ List.replicate e '0' ++ ['0'] =
        d :: ds ++ List.replicate (e + 1) '0' := by
      rw [List.append_assoc, List.replicate_succ']
    show Decimal.mk (Decimal.valueOf (d :: ds ++ List.replicate e '0' ++ ['0'])) (0 - 1) = _
    rw [hzeros, Decimal.valueOf_append_zeros]
    rfl

/-- Digits with the point between two of them. -/
theorem exists_numeral_within (hd : d ≠ '0') {e : Nat} (hlt : e + 1 < (d :: ds).length) :
    ∃ n : Numeral, n.IsWritten ∧ n.IsMarked ∧
      Decimal.positional (d :: ds) (.negSucc e) = n.text ∧
      n.decimal = ⟨Decimal.valueOf (d :: ds), .negSucc e⟩ := by
  let places := (d :: ds).length - (e + 1)
  obtain ⟨j, hj⟩ : ∃ j, places = j + 1 := Nat.exists_eq_add_of_le' (Nat.sub_pos_of_lt hlt)
  refine ⟨⟨(d :: ds).take places, some ((d :: ds).drop places), none⟩, ⟨?_, ?_, ?_, ?_⟩,
    .inl (by simp), ?_, ?_⟩
  · exact ⟨d, ds.take j, by rw [hj, List.take_succ_cons], fun hzero => absurd hzero hd⟩
  · exact fun c hc => hdigits c (List.mem_of_mem_take hc)
  · intro fs hfs
    obtain rfl := Option.some.inj hfs
    refine ⟨?_, fun c hc => hdigits c (List.mem_of_mem_drop hc)⟩
    rw [ne_eq, List.drop_eq_nil_iff]
    omega
  · simp
  · rw [Decimal.positional_of_lt hlt]
    simp [Numeral.text, places]
  · show Decimal.mk (Decimal.valueOf ((d :: ds).take places ++ (d :: ds).drop places))
      (0 - ((d :: ds).drop places).length) = _
    rw [List.take_append_drop, List.length_drop]
    congr 1
    omega

/-- Digits with a zero, the point and perhaps more zeros in front of them. -/
theorem exists_numeral_below {e : Nat} (hle : (d :: ds).length ≤ e + 1) :
    ∃ n : Numeral, n.IsWritten ∧ n.IsMarked ∧
      Decimal.positional (d :: ds) (.negSucc e) = n.text ∧
      n.decimal = ⟨Decimal.valueOf (d :: ds), .negSucc e⟩ := by
  let zeros := List.replicate (e + 1 - (d :: ds).length) '0'
  refine ⟨⟨['0'], some (zeros ++ d :: ds), none⟩, ⟨?_, ?_, ?_, ?_⟩, .inl (by simp), ?_, ?_⟩
  · exact ⟨'0', [], rfl, fun _ => rfl⟩
  · simp
  · intro fs hfs
    obtain rfl := Option.some.inj hfs
    refine ⟨by simp, fun c hc => ?_⟩
    exact (List.mem_append.mp hc).elim Decimal.isDigit_of_mem_zeros (hdigits c)
  · simp
  · rw [Decimal.positional_of_le hle]
    simp [Numeral.text, zeros]
  · show Decimal.mk (Decimal.valueOf (['0'] ++ (zeros ++ d :: ds)))
      (0 - (zeros ++ d :: ds).length) = _
    rw [← List.append_assoc, ← List.replicate_one, List.replicate_append_replicate,
      Decimal.valueOf_zeros_append, List.length_append, List.length_replicate]
    congr 1
    omega

/-- Digits with the point in its place, or with a point and a zero behind them. -/
theorem exists_numeral_positional (hd : d ≠ '0') :
    ∃ n : Numeral, n.IsWritten ∧ n.IsMarked ∧
      Decimal.positional (d :: ds) e ++ (if 0 ≤ e then ['.', '0'] else []) = n.text ∧
      n.decimal = if 0 ≤ e then ⟨Decimal.valueOf (d :: ds) * Nat.pow 10 (e + 1).toNat, -1⟩
        else ⟨Decimal.valueOf (d :: ds), e⟩ := by
  cases e with
  | ofNat e =>
    have hnonneg : (0 : Int) ≤ .ofNat e := Int.natCast_nonneg e
    rw [if_pos hnonneg, if_pos hnonneg]
    exact exists_numeral_whole hdigits hd e
  | negSucc e =>
    have hnone : ¬ (0 : Int) ≤ .negSucc e := by omega
    rw [if_neg hnone, if_neg hnone, List.append_nil]
    by_cases hlt : e + 1 < (d :: ds).length
    · exact exists_numeral_within hdigits hd hlt
    · exact exists_numeral_below hdigits (Nat.not_lt.mp hlt)

/-- A point behind the first digit, and an exponent. -/
theorem exists_numeral_scientific (h : (e + ds.length).natAbs ≤ exponentLimit) :
    ∃ n : Numeral, n.IsWritten ∧ n.IsMarked ∧
      Decimal.scientific (d :: ds) (e + ds.length) = n.text ∧
      n.decimal = ⟨Decimal.valueOf (d :: ds), e⟩ := by
  let x : Exponent := ⟨decide (e + ds.length < 0), (e + ds.length).natAbs, none⟩
  have hshift : x.shift = e + ds.length := by
    simp only [Exponent.shift, x, decide_eq_true_eq]
    split <;> omega
  have hexponent : ∀ y ∈ some x, y.value ≤ exponentLimit ∧ y.excess = none := by
    intro y hy
    obtain rfl := Option.some.inj hy
    exact ⟨h, rfl⟩
  cases ds with
  | nil =>
    refine ⟨⟨[d], none, some x⟩, ⟨⟨d, [], rfl, fun _ => rfl⟩, hdigits, by simp, hexponent⟩,
      .inr (by simp), ?_, ?_⟩
    · simp [Decimal.scientific, Numeral.text, Exponent.text, x]
    · show Decimal.mk (Decimal.valueOf [d]) (x.shift - 0) = _
      rw [hshift]
      simp
  | cons d' ds =>
    refine ⟨⟨[d], some (d' :: ds), some x⟩, ⟨⟨d, [], rfl, fun _ => rfl⟩, ?_, ?_, hexponent⟩,
      .inr (by simp), ?_, ?_⟩
    · simpa using hdigits d List.mem_cons_self
    · intro fs hfs
      obtain rfl := Option.some.inj hfs
      exact ⟨by simp, fun c hc => hdigits c (List.mem_cons_of_mem d hc)⟩
    · simp [Decimal.scientific, Numeral.text, Exponent.text, x]
    · show Decimal.mk (Decimal.valueOf (d :: d' :: ds)) (x.shift - (d' :: ds).length) = _
      rw [hshift]
      congr 1
      omega

end Shapes

/-- Where digits are written with the point in its place, and where with an exponent. -/
theorem write_json (d : Char) (ds : List Char) (e : Int) :
    Decimal.write .json (d :: ds) e =
      if -5 ≤ e + ds.length ∧ e + ds.length < 16 then
        Decimal.positional (d :: ds) e ++ (if 0 ≤ e then ['.', '0'] else [])
      else Decimal.scientific (d :: ds) (e + ds.length) := by
  have hleading : e + ((d :: ds).length : Int) - 1 = e + ds.length := by
    rw [List.length_cons]
    omega
  unfold Decimal.write
  simp only [hleading, NumeralStyle.json, decide_eq_true_eq, true_and]

/-! ## Section 3: The decimal that is written -/

/-- The decimal that the numeral of a magnitude writes. It is the shortest one, but a whole
    number that is written without an exponent has one more zero, behind its point. -/
def written (k : Nat) : Decimal :=
  let (digits, e) := if k = 0 then (['0'], 0) else (Decimal.shortest .even k).significant
  if 0 ≤ e ∧ e + digits.length ≤ 16 then
    ⟨Decimal.valueOf digits * Nat.pow 10 (e + 1).toNat, -1⟩
  else ⟨Decimal.valueOf digits, e⟩

theorem written_zero : written 0 = ⟨0, -1⟩ := rfl

/-- Digits that do not write zero do not start with a zero. -/
theorem exists_significant_eq_cons {d : Decimal} (hc : d.coefficient ≠ 0) :
    ∃ c cs, d.significant.1 = c :: cs ∧ c ≠ '0' := by
  obtain ⟨c, cs, hcons⟩ := List.exists_cons_of_ne_nil (Decimal.significant_ne_nil hc)
  refine ⟨c, cs, hcons, ?_⟩
  rintro rfl
  obtain ⟨t, hdigits, _⟩ := Decimal.digitsOf_eq_significant d
  obtain ⟨c', cs', hcons', hzero⟩ := digitsOf_leadingZero d.coefficient
  rw [hcons, hcons', List.cons_append, List.cons.injEq] at hdigits
  obtain ⟨rfl, _⟩ := hdigits
  have hvalue := Decimal.valueOf_digitsOf d.coefficient
  rw [hcons', hzero rfl] at hvalue
  exact hc hvalue.symm

section Written

variable {k : Nat} (hk : k < rankBound)

include hk

/-- The digits of a magnitude other than zero, and the exponent of the last one. The point
    is not far off. -/
theorem exists_digits (hk0 : k ≠ 0) : ∃ c cs e,
    (Decimal.shortest .even k).significant = (c :: cs, e) ∧ c ≠ '0' ∧
      (∀ d ∈ c :: cs, d.isDigit) ∧ (e + cs.length).natAbs ≤ 401 := by
  let d := Decimal.shortest .even k
  have hrank : d.rank = k := Decimal.rank_shortest _ hk
  obtain ⟨c, cs, hcons, hne⟩ :=
    exists_significant_eq_cons (Decimal.coefficient_shortest_ne_zero .even hk hk0)
  refine ⟨c, cs, d.significant.2, Prod.ext hcons rfl, hne, ?_, ?_⟩
  · rw [← hcons]
    exact fun c' hc' => Decimal.isDigit_of_mem_significant hc'
  · obtain ⟨hlo, hhi, _⟩ := Decimal.rank_eq_rankOfRatio (d := d) (by omega) (by omega)
    obtain ⟨t, hsplit, hexponent⟩ := Decimal.digitsOf_eq_significant d
    unfold Decimal.point at hlo hhi
    rw [hsplit, List.length_append, List.length_replicate] at hlo hhi
    change d.significant.1 = c :: cs at hcons
    rw [hcons, List.length_cons] at hlo hhi
    rw [hexponent]
    omega

/-- A magnitude is written as a numeral, which writes its decimal. -/
theorem exists_numeral : ∃ n : Numeral, n.IsWritten ∧ n.IsMarked ∧
    magnitudeText .json k = n.text ∧ n.decimal = written k := by
  by_cases hk0 : k = 0
  · subst hk0
    exact ⟨⟨Decimal.digitsOf 0, some ['0'], none⟩, Number.isWritten_digitsOf 0 _ (by simp),
      .inl (by simp), rfl, rfl⟩
  obtain ⟨c, cs, e, hsignificant, hne, hdigits, hexponent⟩ := exists_digits hk hk0
  have hlimit : 401 ≤ exponentLimit := by decide
  have htext : magnitudeText .json k = Decimal.write .json (c :: cs) e := by
    unfold magnitudeText
    rw [if_neg hk0]
    show (match (Decimal.shortest .even k).significant with
      | (digits, e) => Decimal.write .json digits e) = _
    rw [hsignificant]
  have hwritten : written k =
      if 0 ≤ e ∧ e + cs.length < 16 then
        ⟨Decimal.valueOf (c :: cs) * Nat.pow 10 (e + 1).toNat, -1⟩
      else ⟨Decimal.valueOf (c :: cs), e⟩ := by
    unfold written
    rw [if_neg hk0, hsignificant]
    dsimp only
    congr 1
    rw [List.length_cons, eq_iff_iff]
    omega
  rw [htext, hwritten, write_json]
  by_cases hplain : -5 ≤ e + cs.length ∧ e + cs.length < 16
  · obtain ⟨n, hnumeral, hmarked, hn, hdecimal⟩ := exists_numeral_positional hdigits (e := e) hne
    rw [if_pos hplain]
    refine ⟨n, hnumeral, hmarked, hn, hdecimal.trans ?_⟩
    simp only [hplain.2, and_true]
  · rw [if_neg hplain, if_neg (by omega)]
    exact exists_numeral_scientific hdigits (Nat.le_trans hexponent hlimit)

/-- A whole number is written with a zero behind its point, if it is not too large. -/
theorem written_whole {n : Nat} (hlt : n < binade)
    (h : Binary64.steps k = n * Binary64.scale) :
    written k = ⟨10 * n, -1⟩ := by
  by_cases hn : n = 0
  · rw [hn, Nat.zero_mul, Binary64.steps_eq_zero_iff] at h
    rw [h, hn, written_zero]
  have hk0 : k ≠ 0 := by
    rintro rfl
    exact hn ((Nat.mul_eq_zero.mp h.symm).resolve_right Binary64.scale_pos.ne')
  obtain ⟨zeros, hexponent, hdigits⟩ := Decimal.significant_shortest_of_whole .even hk hn hlt h
  -- the number has at most sixteen digits, so no exponent is written
  have hfew : (Decimal.digitsOf n).length ≤ 16 :=
    (Nat.length_toDigits_le_iff (by decide) (by decide)).mpr (Nat.lt_trans hlt (by decide))
  have hlength := congrArg List.length hdigits
  rw [List.length_append, List.length_replicate] at hlength
  have hvalue :
      Decimal.valueOf (Decimal.shortest .even k).significant.1 * Nat.pow 10 zeros = n := by
    rw [← Decimal.valueOf_append_zeros, hdigits, Decimal.valueOf_digitsOf]
  unfold written
  rw [if_neg hk0]
  dsimp only
  rw [hexponent, if_pos ⟨by omega, by omega⟩]
  have hplaces : ((zeros : Int) + 1).toNat = zeros + 1 := rfl
  have hpow : Nat.pow 10 (zeros + 1) = Nat.pow 10 zeros * 10 := Nat.pow_succ 10 zeros
  rw [hplaces, hpow, ← Nat.mul_assoc, hvalue, Nat.mul_comm]

/-- The decimal that is written converts back. -/
theorem rank_written : (written k).rank = k := by
  by_cases hk0 : k = 0
  · subst hk0
    rfl
  have hrank := Decimal.rank_significant (Decimal.shortest .even k)
  rw [Decimal.rank_shortest _ hk] at hrank
  unfold written
  rw [if_neg hk0]
  dsimp only
  split
  · next h =>
    rw [Decimal.rank_mul_pow]
    have hexponent : -1 + (((Decimal.shortest .even k).significant.2 + 1).toNat : Int) =
        (Decimal.shortest .even k).significant.2 := by omega
    rw [hexponent]
    exact hrank
  · exact hrank

/-- Its digits fit 64 bits with room to spare. -/
theorem coefficient_written_le : (written k).coefficient ≤ Nat.pow 10 17 := by
  by_cases hk0 : k = 0
  · subst hk0
    exact Nat.zero_le _
  obtain ⟨t, hsplit, _⟩ := Decimal.digitsOf_eq_significant (Decimal.shortest .even k)
  unfold written
  rw [if_neg hk0]
  dsimp only
  split
  · next h =>
    have hlt := ofDigitChars_lt (fun c hc =>
      Decimal.isDigit_of_mem_significant (d := Decimal.shortest .even k) hc) 0
    rw [Nat.zero_add, Nat.one_mul] at hlt
    calc _ ≤ 10 ^ _ * 10 ^ _ := Nat.mul_le_mul_right _ (Nat.le_of_lt hlt)
      _ = 10 ^ _ := (Nat.pow_add 10 _ _).symm
      _ ≤ 10 ^ 17 := Nat.pow_le_pow_right (by decide) (by omega)
  · have hvalue := Decimal.valueOf_digitsOf (Decimal.shortest .even k).coefficient
    rw [hsplit, Decimal.valueOf_append_zeros] at hvalue
    have hle := Decimal.coefficient_shortest_le .even hk
    rw [← hvalue] at hle
    exact Nat.le_trans (Nat.le_mul_of_pos_right _ (Nat.pow_pos (by decide))) hle

/-- It is in range. The two largest magnitudes are rounded while they are read, but not up
    to infinity. -/
theorem exists_scaledRank?_written :
    ∃ r, scaledRank? (written k).coefficient (written k).exponent = some r := by
  by_cases hk0 : k = 0
  · subst hk0
    exact ⟨_, rfl⟩
  by_cases htop : rankBound ≤ k + 2
  · rw [← Option.isSome_iff_exists]
    obtain rfl | rfl : k = rankBound - 1 ∨ k = rankBound - 2 := by omega
    · decide +kernel
    · decide +kernel
  · have hrank := rank_written hk
    exact exists_scaledRank? (Decimal.staysFinite (by omega) (by omega))

end Written

/-! ## Section 4: Finite numbers -/

/-- The numeral of a finite number is read as the number that its decimal is scaled to. -/
theorem Number.readsAs_finite (negative : Bool) (k : Fin rankBound) {r : Nat}
    (h : scaledRank? (written k).coefficient (written k).exponent = some r) :
    ReadsAs (.float (.finite negative k)) (.float (Binary64.ofRank negative r)) := by
  intro fuel level rest hrest
  obtain ⟨n, hwritten, hmarked, htext, hdecimal⟩ := exists_numeral k.isLt
  have hlimit : Nat.pow 10 17 ≤ wordLimit := by decide
  have hfits := Nat.le_trans (coefficient_written_le k.isLt) hlimit
  rw [← hdecimal] at h hfits
  have hread := hwritten.readValue hrest negative fuel level
  rw [hwritten.number_eq hmarked hfits h, ← htext] at hread
  exact hread

/-- So the numeral of any finite number is read as a number. -/
theorem Number.exists_readsAs {x : Binary64} (h : x.isFinite) : ∃ m, ReadsAs (.float x) m := by
  cases x with
  | nan => cases h
  | infinite negative => cases h
  | finite negative k =>
    obtain ⟨r, hr⟩ := exists_scaledRank?_written k.isLt
    exact ⟨_, readsAs_finite negative k hr⟩

end SimSweep.Json
