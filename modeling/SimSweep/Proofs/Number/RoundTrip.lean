import SimSweep.Number.Numeral
import SimSweep.Number.Reading
import SimSweep.Proofs.Number.Decimal
import SimSweep.Text.Blank

/-! # Plain numerals read back

    Reading the plain text of a number gives this number (`read?_write`): the digits
    that are written are those of a decimal that converts back, and neither the zeros
    that are dropped at its end nor those that fill up places change its rank. So the
    text of a number decides the number, down to the sign of zero.
-/

namespace SimSweep

namespace Decimal

/-! ## Section 1: Reading digits -/

section Digits

variable {ds : List Char}

theorem spanDigits_append (h : ∀ c ∈ ds, c.isDigit) (rest : List Char) :
    spanDigits (ds ++ rest) = (ds ++ (spanDigits rest).1, (spanDigits rest).2) := by
  unfold spanDigits
  rw [List.takeWhile_append_of_pos h, List.dropWhile_append_of_pos h]

theorem spanDigits_digits (h : ∀ c ∈ ds, c.isDigit) : spanDigits ds = (ds, []) := by
  have hend := spanDigits_append h []
  rw [List.append_nil] at hend
  rw [hend]
  simp [spanDigits]

/-- Digits alone are a whole number. -/
theorem read?_digits (hne : ds ≠ []) (h : ∀ c ∈ ds, c.isDigit) :
    read? ds = some ⟨valueOf ds, 0⟩ := by
  unfold read?
  rw [spanDigits_digits h]
  simp [hne, exponent?]

/-- Digits on both sides of a point. -/
theorem read?_point (hne : ds ≠ []) (h : ∀ c ∈ ds, c.isDigit) {fs : List Char}
    (hf : ∀ c ∈ fs, c.isDigit) :
    read? (ds ++ '.' :: fs) = some ⟨valueOf (ds ++ fs), -fs.length⟩ := by
  have hpoint : spanDigits ('.' :: fs) = ([], '.' :: fs) := rfl
  unfold read?
  rw [spanDigits_append h, hpoint]
  simp [hne, spanDigits_digits hf, exponent?]

theorem valueOf_append_zeros (ds : List Char) (t : Nat) :
    valueOf (ds ++ List.replicate t '0') = valueOf ds * Nat.pow 10 t := by
  unfold valueOf
  rw [Nat.ofDigitChars_append, Nat.ofDigitChars_replicate_zero, Nat.mul_comm]
  rfl

theorem valueOf_zeros_append (t : Nat) (ds : List Char) :
    valueOf (List.replicate t '0' ++ ds) = valueOf ds := by
  unfold valueOf
  rw [Nat.ofDigitChars_append, Nat.ofDigitChars_replicate_zero, Nat.mul_zero]

@[simp] theorem valueOf_digitsOf (n : Nat) : valueOf (digitsOf n) = n :=
  Nat.ofDigitChars_ten_toDigits

/-- A whole number is filled up with zeros. -/
theorem positional_ofNat (ds : List Char) (e : Nat) :
    positional ds (.ofNat e) = ds ++ List.replicate e '0' := rfl

/-- The point stands between two digits. -/
theorem positional_of_lt {e : Nat} (h : e + 1 < ds.length) :
    positional ds (.negSucc e) =
      ds.take (ds.length - (e + 1)) ++ '.' :: ds.drop (ds.length - (e + 1)) := by
  unfold positional
  exact if_pos h

/-- Zeros fill the places between the point and the first digit. -/
theorem positional_of_le {e : Nat} (h : ds.length ≤ e + 1) :
    positional ds (.negSucc e) =
      ['0'] ++ '.' :: (List.replicate (e + 1 - ds.length) '0' ++ ds) := by
  unfold positional
  exact if_neg (Nat.not_lt.mpr h)

theorem isDigit_of_mem_zeros {t : Nat} {c : Char} (h : c ∈ List.replicate t '0') : c.isDigit := by
  rw [List.eq_of_mem_replicate h]
  rfl

/-- Digits with the point in its place read back as a decimal of the same rank. -/
theorem read?_positional (hne : ds ≠ []) (h : ∀ c ∈ ds, c.isDigit) (e : Int) :
    ∃ d, read? (positional ds e) = some d ∧ d.rank = rank ⟨valueOf ds, e⟩ := by
  cases e with
  | ofNat e =>
    have hdigits : ∀ c ∈ ds ++ List.replicate e '0', c.isDigit := by
      intro c hc
      exact (List.mem_append.mp hc).elim (h c) isDigit_of_mem_zeros
    rw [positional_ofNat]
    refine ⟨_, read?_digits (List.append_ne_nil_of_left_ne_nil hne _) hdigits, ?_⟩
    rw [valueOf_append_zeros, rank_mul_pow, Int.zero_add]
    rfl
  | negSucc e =>
    by_cases hlt : e + 1 < ds.length
    · have htake : ds.take (ds.length - (e + 1)) ≠ [] := by
        rw [ne_eq, List.take_eq_nil_iff]
        simp only [hne, or_false]
        omega
      rw [positional_of_lt hlt]
      refine ⟨_, read?_point htake (fun c hc => h c (List.mem_of_mem_take hc))
        (fun c hc => h c (List.mem_of_mem_drop hc)), ?_⟩
      rw [List.take_append_drop, List.length_drop]
      congr 2
      omega
    · have hle : ds.length ≤ e + 1 := Nat.not_lt.mp hlt
      have hfraction : ∀ c ∈ List.replicate (e + 1 - ds.length) '0' ++ ds, c.isDigit := by
        intro c hc
        exact (List.mem_append.mp hc).elim isDigit_of_mem_zeros (h c)
      rw [positional_of_le hle]
      refine ⟨_, read?_point (by simp) (by simp) hfraction, ?_⟩
      rw [← List.append_assoc, ← List.replicate_one, List.replicate_append_replicate,
        valueOf_zeros_append,
        List.length_append, List.length_replicate]
      congr 2
      omega

/-- Positional digits start with a digit. -/
theorem positional_eq_cons (hne : ds ≠ []) (h : ∀ c ∈ ds, c.isDigit) (e : Int) :
    ∃ c cs, positional ds e = c :: cs ∧ c.isDigit := by
  obtain ⟨d, rest, rfl⟩ := List.exists_cons_of_ne_nil hne
  have hd : d.isDigit := h d List.mem_cons_self
  cases e with
  | ofNat e => exact ⟨d, _, rfl, hd⟩
  | negSucc e =>
    by_cases hlt : e + 1 < (d :: rest).length
    · obtain ⟨n, hn⟩ := Nat.exists_eq_add_of_lt hlt
      rw [positional_of_lt hlt, hn, show e + 1 + n + 1 - (e + 1) = n + 1 by omega]
      exact ⟨d, _, rfl, hd⟩
    · rw [positional_of_le (Nat.not_lt.mp hlt)]
      exact ⟨'0', _, rfl, rfl⟩

/-- Positional digits are digits and a point. -/
theorem isDigit_or_eq_point_of_mem_positional (h : ∀ c ∈ ds, c.isDigit) {e : Int} {c : Char}
    (hc : c ∈ positional ds e) : c.isDigit ∨ c = '.' := by
  cases e with
  | ofNat e =>
    rw [positional_ofNat, List.mem_append] at hc
    exact .inl (hc.elim (h c) isDigit_of_mem_zeros)
  | negSucc e =>
    by_cases hlt : e + 1 < ds.length
    · rw [positional_of_lt hlt, List.mem_append, List.mem_cons] at hc
      rcases hc with hc | hc | hc
      · exact .inl (h c (List.mem_of_mem_take hc))
      · exact .inr hc
      · exact .inl (h c (List.mem_of_mem_drop hc))
    · rw [positional_of_le (Nat.not_lt.mp hlt)] at hc
      rw [List.mem_append, List.mem_singleton, List.mem_cons, List.mem_append] at hc
      rcases hc with rfl | hc | hc | hc
      · exact .inl rfl
      · exact .inr hc
      · exact .inl (isDigit_of_mem_zeros hc)
      · exact .inl (h c hc)

end Digits

/-! ## Section 2: Significant digits -/

/-- The significant digits of a decimal are its digits without the zeros at their end,
    which the exponent makes up for. -/
theorem digitsOf_eq_significant (d : Decimal) :
    ∃ t : Nat, digitsOf d.coefficient = d.significant.1 ++ List.replicate t '0' ∧
      d.significant.2 = d.exponent + t := by
  let ds := (digitsOf d.coefficient).reverse
  have hsplit := List.takeWhile_append_dropWhile (p := (· = '0')) (l := ds)
  have hzeros : ds.takeWhile (· = '0') = List.replicate (ds.takeWhile (· = '0')).length '0' := by
    rw [List.eq_replicate_iff]
    refine ⟨rfl, fun c hc => ?_⟩
    exact of_decide_eq_true (List.all_eq_true.mp List.all_takeWhile c hc)
  have hlength := congrArg List.length hsplit
  rw [List.length_append] at hlength
  refine ⟨(ds.takeWhile (· = '0')).length, ?_, ?_⟩
  · calc digitsOf d.coefficient
        = (ds.takeWhile (· = '0') ++ ds.dropWhile (· = '0')).reverse := by
          rw [hsplit, List.reverse_reverse]
      _ = (ds.dropWhile (· = '0')).reverse ++
            List.replicate (ds.takeWhile (· = '0')).length '0' := by
          rw [List.reverse_append, hzeros, List.length_replicate, List.reverse_replicate]
  · show d.exponent + ((ds.length - (ds.dropWhile (· = '0')).length : Nat) : Int) = _
    congr 2
    omega

theorem isDigit_of_mem_significant {d : Decimal} {c : Char} (h : c ∈ d.significant.1) :
    c.isDigit := by
  obtain ⟨t, hdigits, _⟩ := digitsOf_eq_significant d
  refine isDigit_of_mem_digitsOf (n := d.coefficient) ?_
  rw [hdigits]
  exact List.mem_append_left _ h

/-- A decimal other than zero has a significant digit. -/
theorem significant_ne_nil {d : Decimal} (hc : d.coefficient ≠ 0) : d.significant.1 ≠ [] := by
  intro hnil
  obtain ⟨t, hdigits, _⟩ := digitsOf_eq_significant d
  refine hc ?_
  rw [← valueOf_digitsOf d.coefficient, hdigits, hnil, valueOf_append_zeros]
  exact Nat.zero_mul _

/-- The significant digits make up a decimal of the same rank. -/
theorem rank_significant (d : Decimal) :
    rank ⟨valueOf d.significant.1, d.significant.2⟩ = d.rank := by
  obtain ⟨t, hdigits, hexponent⟩ := digitsOf_eq_significant d
  rw [hexponent, ← rank_mul_pow, ← valueOf_append_zeros, ← hdigits, valueOf_digitsOf]

/-- Plain numerals have digits and a point only. -/
theorem write_plain (digits : List Char) (e : Int) : write .plain digits e = positional digits e :=
  List.append_nil _

end Decimal

namespace Binary64

/-! ## Section 3: Reading a plain numeral -/

/-- The plain text of a magnitude is made of digits that convert back to it. -/
theorem magnitudeText_plain {k : Nat} (hk : k < rankBound) :
    ∃ ds e, ds ≠ [] ∧ (∀ c ∈ ds, c.isDigit) ∧ magnitudeText .plain k = Decimal.positional ds e ∧
      Decimal.rank ⟨Decimal.valueOf ds, e⟩ = k := by
  by_cases hzero : k = 0
  · subst hzero
    exact ⟨['0'], 0, by simp, by simp, rfl, rfl⟩
  · let d := Decimal.shortest NumeralStyle.plain.tie k
    have hc : d.coefficient ≠ 0 := Decimal.coefficient_shortest_ne_zero _ hk hzero
    refine ⟨d.significant.1, d.significant.2, Decimal.significant_ne_nil hc,
      fun c h => Decimal.isDigit_of_mem_significant h, ?_, ?_⟩
    · unfold magnitudeText
      rw [if_neg hzero, ← Decimal.write_plain]
    · rw [Decimal.rank_significant, Decimal.rank_shortest _ hk]

theorem toLower_of_isDigit {c : Char} (h : c.isDigit) : c.toLower = c := by
  have hnine : c.val ≤ '9'.val := by
    simp only [Char.isDigit, Bool.and_eq_true, decide_eq_true_eq] at h
    exact h.2
  have hletter : ¬ (c.val ≥ 'A'.val ∧ c.val ≤ 'Z'.val) := by
    rintro ⟨hA, _⟩
    exact absurd (UInt32.le_trans hA hnine) (by decide)
  unfold Char.toLower
  rw [dif_neg hletter]

/-- What starts with a digit is no name, so it is read as a decimal, with or without a
    minus in front. -/
theorem read?_signed (negative : Bool) {c : Char} (cs : List Char) (h : c.isDigit) :
    read? ((if negative then ['-'] else []) ++ c :: cs) =
      (Decimal.read? (c :: cs)).map (Decimal.toBinary64 negative) := by
  have hsign : Decimal.sign ((if negative then ['-'] else []) ++ c :: cs) =
      (negative, c :: cs) := by
    cases negative with
    | true => rfl
    | false =>
      show Decimal.sign (c :: cs) = (false, c :: cs)
      unfold Decimal.sign
      split
      · next heq =>
        cases heq
        cases h
      · next heq =>
        cases heq
        cases h
      · rfl
  have hname : ∀ d ds, ¬ d.isDigit →
      String.ofList ((c :: cs).map Char.toLower) ≠ String.ofList (d :: ds) := by
    intro d ds hd heq
    have hhead := (List.cons.inj (String.ofList_injective heq)).1
    rw [toLower_of_isDigit h] at hhead
    exact hd (hhead ▸ h)
  unfold read?
  rw [hsign]
  simp only []
  rw [if_neg (hname 'n' ['a', 'n'] (by decide)), if_neg]
  rintro (heq | heq)
  · exact hname 'i' ['n', 'f'] (by decide) heq
  · exact hname 'i' "nfinity".toList (by decide) heq

/-! ## Section 4: The round trip -/

/-- Reading the plain text of a number gives the number. -/
theorem read?_write (x : Binary64) : read? (x.write .plain) = some x := by
  cases x with
  | nan => rfl
  | infinite negative => cases negative <;> rfl
  | finite negative k =>
    obtain ⟨ds, e, hne, hdigits, htext, hrank⟩ := magnitudeText_plain k.isLt
    obtain ⟨c, cs, hcons, hdigit⟩ := Decimal.positional_eq_cons hne hdigits e
    obtain ⟨d, hread, hrank'⟩ := Decimal.read?_positional hne hdigits e
    show read? ((if negative then ['-'] else []) ++ magnitudeText .plain k.val) = _
    rw [htext, hcons, read?_signed negative cs hdigit, ← hcons, hread]
    show some (ofRank negative d.rank) = _
    rw [hrank', hrank, ofRank, dif_pos k.isLt]

/-- Different numbers have different texts. -/
theorem write_injective {x y : Binary64} (h : x.write .plain = y.write .plain) : x = y := by
  have hread := read?_write x
  rw [h, read?_write y] at hread
  exact (Option.some.inj hread).symm

/-- The characters of plain texts. -/
def isTextual (c : Char) : Bool := c.isAlphanum || c == '.' || c == '-'

theorem isTextual_of_isDigit {c : Char} (h : c.isDigit) : isTextual c := by
  unfold isTextual Char.isAlphanum
  rw [h, Bool.or_true]
  rfl

/-- A plain text has letters, digits, points and dashes only. -/
theorem isTextual_of_mem_write {x : Binary64} {c : Char} (h : c ∈ x.write .plain) :
    isTextual c := by
  have hdash : ∀ negative : Bool, c ∈ (if negative then ['-'] else []) → isTextual c := by
    rintro (_ | _) hc
    · cases hc
    · rw [List.mem_singleton.mp hc]
      rfl
  cases x with
  | nan =>
    have hall : (nan.write .plain).all isTextual := by decide
    exact List.all_eq_true.mp hall c h
  | infinite negative =>
    rcases List.mem_append.mp h with h | h
    · exact hdash negative h
    · have hall : "inf".toList.all isTextual := by decide
      exact List.all_eq_true.mp hall c h
  | finite negative k =>
    rcases List.mem_append.mp h with h | h
    · exact hdash negative h
    · obtain ⟨ds, e, _, hdigits, htext, _⟩ := magnitudeText_plain k.isLt
      rw [htext] at h
      rcases Decimal.isDigit_or_eq_point_of_mem_positional hdigits h with hc | rfl
      · exact isTextual_of_isDigit hc
      · rfl

/-- None of them is blank. -/
theorem not_isBlank_of_isTextual {c : Char} (h : isTextual c) : ¬ isBlank c := by
  have hclasses : ((decide ('A'.val ≤ c.val ∧ c.val ≤ 'Z'.val) ||
      decide ('a'.val ≤ c.val) && decide (c.val ≤ 'z'.val)) || c.isDigit) ||
      c == '.' || c == '-' := h
  have hbounds : 45 ≤ c.toNat ∧ c.toNat ≤ 122 := by
    simp only [Bool.or_eq_true, Char.isDigit_iff_toNat, beq_iff_eq, Bool.and_eq_true,
      decide_eq_true_eq, UInt32.le_iff_toNat_le] at hclasses
    rcases hclasses with (((⟨hlo, hhi⟩ | ⟨hlo, hhi⟩) | ⟨hlo, hhi⟩) | rfl) | rfl
    · exact ⟨Nat.le_trans (by decide) hlo, Nat.le_trans hhi (by decide)⟩
    · exact ⟨Nat.le_trans (by decide) hlo, Nat.le_trans hhi (by decide)⟩
    · exact ⟨Nat.le_trans (by decide) hlo, Nat.le_trans hhi (by decide)⟩
    · decide
    · decide
  unfold isBlank blankIntervals
  simp only [List.any_cons, List.any_nil, Bool.or_false, Bool.or_eq_true, decide_eq_true_eq]
  omega

theorem write_ne_nil (x : Binary64) : x.write .plain ≠ [] := by
  -- nothing is read from the empty text
  intro hnil
  have hread := read?_write x
  rw [hnil] at hread
  cases hread

end Binary64

end SimSweep
