import SimSweep.Proofs.Number.RoundTrip
import SimSweep.Text.Integer

/-! # Whole numbers read back

    The text of a whole number is a minus, if the number is below zero, and digits without
    zeros in front. A reader that stops as soon as its limit is exceeded reads them to the end
    if their value is within the limit, since the value never falls on the way. So a number of
    the range is read from its own text, the least one too, whose magnitude no other number of
    the range has.
-/

namespace SimSweep

section Digits

variable {limit : Nat} {overflow : IntFault} {ds : List Char}

/-- More digits never make a value smaller. -/
theorem le_ofDigitChars (n : Nat) (ds : List Char) : n ≤ Nat.ofDigitChars 10 ds n := by
  induction ds generalizing n with
  | nil => exact Nat.le_refl n
  | cons c rest ih =>
    rw [Nat.ofDigitChars_cons]
    exact Nat.le_trans (by omega) (ih _)

/-- Digits are read to the end if their value is within the limit. -/
theorem readDigits_eq_ok (h : ∀ c ∈ ds, c.isDigit) {n : Nat}
    (hlimit : Nat.ofDigitChars 10 ds n ≤ limit) :
    readDigits limit overflow n ds = .ok (Nat.ofDigitChars 10 ds n) := by
  induction ds generalizing n with
  | nil => rfl
  | cons c rest ih =>
    obtain ⟨hc, hrest⟩ := List.forall_mem_cons.mp h
    rw [Nat.ofDigitChars_cons] at hlimit ⊢
    have hstep := Nat.le_trans (le_ofDigitChars _ rest) hlimit
    rw [readDigits, if_neg (not_not.mpr hc)]
    simp only [if_neg (Nat.not_lt.mpr hstep)]
    exact ih hrest hlimit

theorem readDigits_digitsOf {n : Nat} (h : n ≤ limit) :
    readDigits limit overflow 0 (Decimal.digitsOf n) = .ok n := by
  have hvalue : Nat.ofDigitChars 10 (Decimal.digitsOf n) 0 = n := Decimal.valueOf_digitsOf n
  rw [readDigits_eq_ok (fun c hc => Decimal.isDigit_of_mem_digitsOf hc) (by omega), hvalue]

end Digits

/-- The digits of a number start with a digit. -/
theorem digitsOf_head_isDigit (n : Nat) :
    ∃ c rest, Decimal.digitsOf n = c :: rest ∧ c.isDigit := by
  obtain ⟨c, rest, hcons⟩ :=
    List.exists_cons_of_ne_nil (List.ne_nil_of_length_pos (Decimal.length_digitsOf_pos n))
  exact ⟨c, rest, hcons, Decimal.isDigit_of_mem_digitsOf (hcons ▸ List.mem_cons_self)⟩

/-- A number of the range is read from its text. -/
theorem readInt_intText {bits : Nat} {i : Int} (hlo : -(Nat.pow 2 bits : Int) ≤ i)
    (hhi : i < Nat.pow 2 bits) : readInt bits (intText i) = .ok i := by
  obtain ⟨c, rest, hcons, hc⟩ := digitsOf_head_isDigit i.natAbs
  unfold intText
  split
  · next hneg =>
    have hread : readDigits (Nat.pow 2 bits) .tooSmall 0 (c :: rest) = .ok i.natAbs :=
      hcons ▸ readDigits_digitsOf (by omega)
    rw [hcons, readInt, hread]
    · show Except.ok (-(i.natAbs : Int)) = .ok i
      congr 1
      omega
    · simp
  · next hpos =>
    have hread : readDigits (Nat.pow 2 bits - 1) .tooLarge 0 (c :: rest) = .ok i.natAbs :=
      hcons ▸ readDigits_digitsOf (by omega)
    -- a digit is no sign
    have hminus : c ≠ '-' := by rintro rfl; cases hc
    have hplus : c ≠ '+' := by rintro rfl; cases hc
    rw [hcons, readInt, hread]
    · show Except.ok (i.natAbs : Int) = .ok i
      congr 1
      omega
    all_goals simp [hminus, hplus]

end SimSweep
