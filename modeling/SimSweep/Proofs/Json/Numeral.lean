import Mathlib.Tactic.Ring
import SimSweep.Json.Node
import SimSweep.Json.Printer
import SimSweep.Proofs.Number.Whole

/-! # Numerals read back

    A numeral is read to its last character and no further, if what follows it could not
    be part of it (`StopsNumeral`). Digits alone are the whole number that they write, as
    long as it fits its bits.
-/

namespace SimSweep.Json

/-! ## Section 1: The parts of a numeral -/

/-- A text that cannot go on with a numeral. -/
def StopsNumeral (rest : List Char) : Prop :=
  ∀ c ∈ rest.head?, ¬ c.isDigit ∧ c ≠ '.' ∧ c ≠ 'e' ∧ c ≠ 'E'

theorem spanDigits_of_head {cs : List Char} (h : ∀ c ∈ cs.head?, ¬ c.isDigit) :
    Decimal.spanDigits cs = ([], cs) := by
  cases cs with
  | nil => rfl
  | cons c cs =>
    have hc := h c rfl
    unfold Decimal.spanDigits
    rw [List.takeWhile_cons_of_neg hc, List.dropWhile_cons_of_neg hc]

theorem StopsNumeral.readExponent {rest : List Char} (h : StopsNumeral rest) :
    readExponent rest = .ok (none, rest) := by
  unfold Json.readExponent
  split
  · rfl
  · next c cs =>
    obtain ⟨_, _, hlower, hupper⟩ := h c rfl
    rw [if_neg (by simp [hlower, hupper])]

/-- The digits of a number start with a zero only if the number is zero. -/
theorem digitsOf_leadingZero (n : Nat) :
    ∃ d ds, Decimal.digitsOf n = d :: ds ∧ (d = '0' → ds = []) := by
  unfold Decimal.digitsOf
  induction n using Nat.strongRecOn with
  | ind n ih =>
    by_cases hn : n < 10
    · exact ⟨n.digitChar, [], Nat.toDigits_of_lt_base hn, fun _ => rfl⟩
    · have hle : 10 ≤ n := Nat.not_lt.mp hn
      obtain ⟨d, ds, hcons, hzero⟩ := ih (n / 10) (Nat.div_lt_self (by omega) (by decide))
      refine ⟨d, ds ++ [(n % 10).digitChar], ?_, ?_⟩
      · rw [Nat.toDigits_of_base_le (by decide) hle, hcons, List.cons_append]
      · -- a leading zero would make the quotient zero
        intro hd
        have hvalue := Nat.ofDigitChars_ten_toDigits (n := n / 10)
        rw [hcons, hzero hd, hd] at hvalue
        have hpos : 0 < n / 10 := Nat.div_pos hle (by decide)
        exact absurd hvalue (Nat.ne_of_lt hpos)

/-- Digits that do not start with a needless zero are read up to what stops them. -/
theorem readWhole_digits {d : Char} {ds rest : List Char} (hdigits : ∀ c ∈ d :: ds, c.isDigit)
    (hzero : d = '0' → ds = []) (hrest : Decimal.spanDigits rest = ([], rest)) :
    readWhole (d :: ds ++ rest) = .ok (d :: ds, rest) := by
  have hspan := Decimal.spanDigits_append hdigits rest
  rw [hrest, List.append_nil] at hspan
  rw [List.cons_append] at hspan ⊢
  unfold readWhole
  split
  · next heq => cases heq
  · next cs heq =>
    -- a leading zero stands alone, and no digit follows it
    obtain ⟨rfl, hcs⟩ := List.cons.inj heq
    obtain rfl := hzero rfl
    obtain rfl : rest = cs := hcs
    cases rest with
    | nil => rfl
    | cons c cs =>
      have hc : ¬ c.isDigit := by
        intro hc
        unfold Decimal.spanDigits at hrest
        rw [List.takeWhile_cons_of_pos hc] at hrest
        cases hrest
      simp [hc]
  · next c cs _ heq =>
    obtain ⟨rfl, rfl⟩ := List.cons.inj heq
    rw [if_pos (hdigits d List.mem_cons_self), hspan]

/-- Further digits multiply the value by ten at least. -/
theorem mul_pow_le_ofDigitChars (ds : List Char) :
    ∀ n : Nat, n * Nat.pow 10 ds.length ≤ Nat.ofDigitChars 10 ds n := by
  induction ds with
  | nil =>
    intro n
    exact Nat.le_of_eq (Nat.mul_one n)
  | cons d ds ih =>
    intro n
    rw [Nat.ofDigitChars_cons]
    calc n * 10 ^ (ds.length + 1) = 10 * n * 10 ^ ds.length := by
          rw [Nat.pow_succ]
          ring
      _ ≤ (10 * n + (d.toNat - '0'.toNat)) * 10 ^ ds.length :=
          Nat.mul_le_mul_right _ (Nat.le_add_right _ _)
      _ ≤ Nat.ofDigitChars 10 ds (10 * n + (d.toNat - '0'.toNat)) := ih _

/-- Digits write less than the power of ten with one digit more. -/
theorem ofDigitChars_lt {ds : List Char} (h : ∀ c ∈ ds, c.isDigit) :
    ∀ n : Nat, Nat.ofDigitChars 10 ds n < (n + 1) * Nat.pow 10 ds.length := by
  induction ds with
  | nil =>
    intro n
    exact Nat.lt_of_lt_of_eq (Nat.lt_succ_self n) (Nat.mul_one _).symm
  | cons d ds ih =>
    intro n
    rw [List.forall_mem_cons] at h
    have hnine : d.toNat - '0'.toNat + 1 ≤ 10 := by
      have := (Char.isDigit_iff_toNat.mp h.1).2
      show d.toNat - 48 + 1 ≤ 10
      exact Nat.succ_le_succ (Nat.sub_le_of_le_add this)
    rw [Nat.ofDigitChars_cons]
    calc Nat.ofDigitChars 10 ds (10 * n + (d.toNat - '0'.toNat))
        < (10 * n + (d.toNat - '0'.toNat) + 1) * 10 ^ ds.length := ih h.2 _
      _ ≤ (10 * n + 10) * 10 ^ ds.length :=
          Nat.mul_le_mul_right _ (Nat.add_le_add_left hnine (10 * n))
      _ = (n + 1) * 10 ^ (ds.length + 1) := by
          rw [Nat.pow_succ]
          ring

/-- Digits are taken in as long as their value stays within the limit. -/
theorem absorb_digits {limit : Nat} :
    ∀ (ds : List Char) (n : Nat), Nat.ofDigitChars 10 ds n ≤ limit →
      absorb limit n ds = (Nat.ofDigitChars 10 ds n, []) := by
  intro ds
  induction ds with
  | nil =>
    intro n _
    rfl
  | cons d ds ih =>
    intro n h
    rw [Nat.ofDigitChars_cons] at h ⊢
    have hgrows := mul_pow_le_ofDigitChars ds (10 * n + (d.toNat - '0'.toNat))
    have hpow : 0 < Nat.pow 10 ds.length := Nat.pow_pos (by decide)
    have hstep := Nat.le_trans (Nat.le_mul_of_pos_right _ hpow) (Nat.le_trans hgrows h)
    unfold absorb
    simp only [if_neg (Nat.not_lt.mpr hstep)]
    exact ih _ h

theorem absorb_digitsOf {limit n : Nat} (h : n ≤ limit) :
    absorb limit 0 (Decimal.digitsOf n) = (n, []) := by
  have hvalue : Nat.ofDigitChars 10 (Decimal.digitsOf n) 0 = n := Decimal.valueOf_digitsOf n
  rw [absorb_digits _ 0 (by rw [hvalue]; exact h), hvalue]

/-! ## Section 2: The text of a numeral -/

/-- The text of an exponent. -/
def Exponent.text (x : Exponent) : List Char :=
  'e' :: (if x.negative then '-' else '+') :: Decimal.digitsOf x.value

/-- The text of a numeral after its sign. -/
def Numeral.text (n : Numeral) : List Char :=
  n.whole ++ (n.fraction.elim [] fun ds => '.' :: ds) ++ n.exponent.elim [] Exponent.text

/-- A numeral that can be read from its text. -/
structure Numeral.IsWritten (n : Numeral) : Prop where
  whole : ∃ d ds, n.whole = d :: ds ∧ (d = '0' → ds = [])
  isDigit_whole : ∀ c ∈ n.whole, c.isDigit
  fraction : ∀ ds ∈ n.fraction, ds ≠ [] ∧ ∀ c ∈ ds, c.isDigit
  exponent : ∀ x ∈ n.exponent, x.value ≤ exponentLimit ∧ x.excess = none

theorem readExponent_text {x : Exponent} (hvalue : x.value ≤ exponentLimit)
    (hexcess : x.excess = none) {rest : List Char}
    (hrest : Decimal.spanDigits rest = ([], rest)) :
    readExponent (x.text ++ rest) = .ok (some x, rest) := by
  obtain ⟨negative, value, excess⟩ := x
  subst hexcess
  have hspan := Decimal.spanDigits_append
    (fun c hc => Decimal.isDigit_of_mem_digitsOf (n := value) hc) rest
  rw [hrest, List.append_nil] at hspan
  have hsign : Decimal.sign ((if negative then '-' else '+') :: (Decimal.digitsOf value ++ rest)) =
      (negative, Decimal.digitsOf value ++ rest) := by
    cases negative <;> rfl
  have hnonempty : (Decimal.digitsOf value).isEmpty = false := by
    rw [List.isEmpty_eq_false_iff]
    exact List.ne_nil_of_length_pos (Decimal.length_digitsOf_pos value)
  unfold Exponent.text readExponent
  simp only [List.cons_append, true_or, if_true, hsign, hspan, hnonempty, absorb_digitsOf hvalue,
    Bool.false_eq_true, if_false, List.isEmpty_nil]

/-- The text of the places behind a point, if there are any. -/
theorem readFraction_text {fraction : Option (List Char)}
    (h : ∀ ds ∈ fraction, ds ≠ [] ∧ ∀ c ∈ ds, c.isDigit) {rest : List Char}
    (hrest : ∀ c ∈ rest.head?, ¬ c.isDigit ∧ c ≠ '.') :
    readFraction (fraction.elim [] (fun ds => '.' :: ds) ++ rest) = .ok (fraction, rest) := by
  cases fraction with
  | none =>
    show readFraction rest = _
    unfold readFraction
    split
    · next cs => exact absurd rfl (hrest '.' rfl).2
    · rfl
  | some ds =>
    obtain ⟨hne, hdigits⟩ := h ds rfl
    have hspan := Decimal.spanDigits_append hdigits rest
    rw [spanDigits_of_head fun c hc => (hrest c hc).1, List.append_nil] at hspan
    show readFraction ('.' :: (ds ++ rest)) = _
    unfold readFraction
    simp only [hspan, List.isEmpty_eq_false_iff.mpr hne, Bool.false_eq_true, if_false]

/-- What starts with a digit is a number. -/
theorem readValue_digit {c : Char} (h : c.isDigit) (fuel level : Nat) (cs : List Char) :
    readValue (fuel + 1) level (c :: cs) = readNumberNode c false (c :: cs) := by
  have hne : ∀ d : Char, ¬ d.isDigit → c ≠ d := by
    rintro d hd rfl
    exact hd h
  have hblanks : skipBlanks (c :: cs) = c :: cs := by
    unfold skipBlanks
    rw [List.dropWhile_cons_of_neg]
    simp [hne ' ' (by decide), hne '\n' (by decide), hne '\t' (by decide), hne '\r' (by decide)]
  rw [readValue, hblanks]
  split
  · next heq => cases heq
  all_goals next heq => first
    | (obtain ⟨rfl, rfl⟩ := List.cons.inj heq; rw [if_pos h])
    | exact absurd (List.cons.inj heq).1 (hne _ (by decide))

theorem readValue_minus (fuel level : Nat) (cs : List Char) :
    readValue (fuel + 1) level ('-' :: cs) = readNumberNode '-' true cs := by
  rw [readValue]
  rfl

/-- The places do not go on with the digits before the point. -/
theorem head_fraction_text (fraction : Option (List Char)) {rest : List Char}
    (hrest : ∀ c ∈ rest.head?, ¬ c.isDigit) :
    ∀ c ∈ (fraction.elim [] (fun ds => '.' :: ds) ++ rest).head?, ¬ c.isDigit := by
  cases fraction with
  | none => exact hrest
  | some ds =>
    intro c hc
    obtain rfl : '.' = c := Option.some.inj hc
    decide

section Text

variable {n : Numeral} (h : n.IsWritten) {rest : List Char} (hrest : StopsNumeral rest)

include h hrest

/-- What stands behind the places of a numeral is its exponent, and no digit. -/
theorem Numeral.IsWritten.readExponent :
    readExponent (n.exponent.elim [] Exponent.text ++ rest) = .ok (n.exponent, rest) ∧
      ∀ c ∈ (n.exponent.elim [] Exponent.text ++ rest).head?, ¬ c.isDigit ∧ c ≠ '.' := by
  cases hexponent : n.exponent with
  | none => exact ⟨hrest.readExponent, fun c hc => ⟨(hrest c hc).1, (hrest c hc).2.1⟩⟩
  | some x =>
    obtain ⟨hvalue, hexcess⟩ := h.exponent x hexponent
    refine ⟨readExponent_text hvalue hexcess (spanDigits_of_head fun c hc => (hrest c hc).1), ?_⟩
    intro c hc
    obtain rfl : 'e' = c := Option.some.inj hc
    decide

/-- A numeral is read from its text. -/
theorem Numeral.IsWritten.readNumber (negative : Bool) :
    readNumber negative (n.text ++ rest) = .ok (n.number negative rest, rest) := by
  obtain ⟨d, ds, hwhole, hzero⟩ := h.whole
  obtain ⟨hexponent, hhead⟩ := h.readExponent hrest
  have hdigits := h.isDigit_whole
  rw [hwhole] at hdigits
  have hfraction := readFraction_text h.fraction hhead
  have hstop := spanDigits_of_head
    (head_fraction_text n.fraction fun c hc => (hhead c hc).1)
  unfold Numeral.text Json.readNumber
  rw [hwhole, List.append_assoc, List.append_assoc, readWhole_digits hdigits hzero hstop]
  simp only [bind, Except.bind, hfraction, hexponent, ← hwhole]

/-- Wherever a value is expected, a numeral with a sign is read as its number. -/
theorem Numeral.IsWritten.readValue (negative : Bool) (fuel level : Nat) :
    readValue (fuel + 1) level ((if negative then ['-'] else []) ++ n.text ++ rest) =
      (.number (n.number negative rest), .ok rest) := by
  have hread := h.readNumber hrest negative
  cases negative with
  | true =>
    show Json.readValue (fuel + 1) level ('-' :: (n.text ++ rest)) = _
    rw [readValue_minus, readNumberNode, hread]
  | false =>
    show Json.readValue (fuel + 1) level (n.text ++ rest) = _
    obtain ⟨d, ds, hwhole, _⟩ := h.whole
    have hdigit : d.isDigit := h.isDigit_whole d (by rw [hwhole]; exact List.mem_cons_self)
    unfold Numeral.text at hread ⊢
    rw [hwhole] at hread ⊢
    simp only [List.cons_append] at hread ⊢
    rw [readValue_digit hdigit, readNumberNode, hread]

end Text

/-! ## Section 3: Numbers that are read back -/

/-- Whatever stops it, the numeral of one number is read as another number, which is
    mostly the same one. -/
def Number.ReadsAs (n m : Number) : Prop :=
  ∀ (fuel level : Nat) (rest : List Char), StopsNumeral rest →
    readValue (fuel + 1) level (n.write ++ rest) = (.number (.ok m), .ok rest)

/-- Digits alone are the number that they write, if it fits 64 bits. -/
theorem number_digits (negative : Bool) {n : Nat} (h : n ≤ wordLimit) (rest : List Char) :
    Numeral.number negative ⟨Decimal.digitsOf n, none, none⟩ rest =
      .ok (wholeNumber negative n) := by
  unfold Numeral.number
  rw [absorb_digitsOf h]

namespace Number

/-- What the numeral of a number is read as. -/
def reread (n : Number) : Number :=
  match (readValue 1 0 n.write).1 with
  | .number (.ok m) => m
  | _ => n

theorem ReadsAs.reread_eq {n m : Number} (h : n.ReadsAs m) : n.reread = m := by
  have hread := h 0 0 [] (fun c hc => by cases hc)
  rw [List.append_nil] at hread
  unfold reread
  rw [hread]

theorem ReadsAs.reread {n m : Number} (h : n.ReadsAs m) : n.ReadsAs n.reread := by
  rw [h.reread_eq]
  exact h

/-- A number that is read as one is finite: the names of others are no JSON values. -/
theorem ReadsAs.fault?_eq_none {n m : Number} (h : n.ReadsAs m) : n.fault? = none := by
  have hread := congrArg Prod.fst (h 0 0 [] (fun c hc => by cases hc))
  cases n with
  | natural n => rfl
  | negative n => rfl
  | float x =>
    cases x with
    | finite negative k => rfl
    | nan => cases hread
    | infinite negative => cases negative <;> cases hread

theorem isWritten_digitsOf (n : Nat) (fraction : Option (List Char))
    (hfraction : ∀ ds ∈ fraction, ds ≠ [] ∧ ∀ c ∈ ds, c.isDigit) :
    Numeral.IsWritten ⟨Decimal.digitsOf n, fraction, none⟩ where
  whole := digitsOf_leadingZero n
  isDigit_whole c hc := Decimal.isDigit_of_mem_digitsOf hc
  fraction := hfraction
  exponent x hx := by cases hx

theorem readsAs_natural {n : Nat} (h : n ≤ wordLimit) : ReadsAs (.natural n) (.natural n) := by
  intro fuel level rest hrest
  have hread := (isWritten_digitsOf n none (by simp)).readValue hrest false fuel level
  rw [number_digits false h] at hread
  simpa [Numeral.text, write, wholeNumber] using hread

theorem readsAs_negative {n : Nat} (hn : n ≠ 0) (h : n ≤ Nat.pow 2 63) :
    ReadsAs (.negative n) (.negative n) := by
  intro fuel level rest hrest
  have hlimit : n ≤ wordLimit := Nat.le_trans h (by decide)
  have hread := (isWritten_digitsOf n none (by simp)).readValue hrest true fuel level
  have hwhole : wholeNumber true n = .negative n := by
    unfold wholeNumber
    rw [if_neg (by simp), if_neg (by omega)]
  rw [number_digits true hlimit, hwhole] at hread
  simpa [Numeral.text, write] using hread

end Number

end SimSweep.Json
