import SimSweep.Proofs.Command.Line
import SimSweep.Proofs.Report.Counters

/-! # Endings from status words

    The system reports the end of a process as a word of 32 bits. Its lowest seven bits are
    zero if the process exited, and then the second byte is its status; all of them are set
    if it did not end but stopped or went on; and otherwise they are the number of the
    signal that killed it, with one more bit that says whether its memory was dumped.

    What a word says is stated in arithmetic (`Tells`), apart from the tests that take it to
    an ending. Main statement: `ofStatusWord_eq_iff_tells`. The ending is what the word says,
    except where a word that is not zero says that the process exited with status zero: only
    the word zero counts as success, and any such word makes a failure with status zero.
-/

namespace SimSweep.Ending

/-! ## Section 1: What a word says -/

/-- A word says that a process exited with a status. -/
def Exited (word : UInt32) (status : Nat) : Prop :=
  word.toNat % 128 = 0 ∧ word.toNat / 256 % 256 = status

/-- A word says that a process was killed by a signal. -/
def Killed (word : UInt32) (signal : Nat) : Prop :=
  word.toNat % 128 = signal ∧ signal ≠ 0 ∧ signal ≠ 127

/-- An ending is what a word says. -/
inductive Tells (word : UInt32) : Ending → Prop where
  | success : Exited word 0 → Tells word .success
  | failed {status : Nat} : Exited word status → 1 ≤ status → status ≤ 255 →
      Tells word (.failed (Int32.ofNat status))
  | killed {signal : Nat} : Killed word signal → 1 ≤ signal → signal ≤ 126 →
      Tells word (.terminated (some (Int32.ofNat signal)))
  | neither : (∀ status, ¬ Exited word status) → (∀ signal, ¬ Killed word signal) →
      Tells word (.terminated none)

/-! ## Section 2: The tests -/

section

variable {word : UInt32}

@[simp] theorem toNat_signalBits : (signalBits word).toNat = word.toNat % 128 := by
  unfold signalBits
  rw [UInt32.toNat_and]
  exact Nat.and_two_pow_sub_one_eq_mod word.toNat 7

@[simp] theorem toNat_statusBits : (statusBits word).toNat = word.toNat / 256 % 256 := by
  unfold statusBits
  rw [UInt32.toNat_and, UInt32.toNat_shiftRight]
  exact (Nat.and_two_pow_sub_one_eq_mod _ 8).trans
    (congrArg (· % 256) (Nat.shiftRight_eq_div_pow word.toNat 8))

/-- Numbers in a word have no sign, so it makes no difference when they are given one. -/
theorem toInt32_eq_ofNat (x : UInt32) : x.toInt32 = Int32.ofNat x.toNat := by
  apply Int32.toBitVec_inj.mp
  exact (BitVec.ofNat_toNat 32 x.toBitVec).symm

theorem signalBits_eq_zero_iff : signalBits word = 0 ↔ word.toNat % 128 = 0 := by
  rw [← toNat_signalBits]
  exact UInt32.toNat_inj.symm

theorem signalBits_eq_all_iff : signalBits word = 0x7f ↔ word.toNat % 128 = 127 := by
  rw [← toNat_signalBits]
  exact UInt32.toNat_inj.symm

theorem ofStatusWord_of_exited {status : Nat} (h : Exited word status) :
    ofStatusWord word = if word = 0 then .success else .failed (Int32.ofNat status) := by
  unfold ofStatusWord
  rw [if_pos (signalBits_eq_zero_iff.mpr h.1), toInt32_eq_ofNat, toNat_statusBits, h.2]

theorem ofStatusWord_of_killed {signal : Nat} (h : Killed word signal) :
    ofStatusWord word = .terminated (some (Int32.ofNat signal)) := by
  obtain ⟨hsignal, hpos, hstopped⟩ := h
  have hexited : signalBits word ≠ 0 := fun hzero =>
    hpos (hsignal.symm.trans (signalBits_eq_zero_iff.mp hzero))
  have hended : signalBits word ≠ 0x7f := fun hall =>
    hstopped (hsignal.symm.trans (signalBits_eq_all_iff.mp hall))
  have hword : word ≠ 0 := by
    rintro rfl
    exact hexited rfl
  unfold ofStatusWord
  rw [if_neg hword, if_neg hexited, if_neg hended, toInt32_eq_ofNat, toNat_signalBits, hsignal]

theorem ofStatusWord_of_neither (h : word.toNat % 128 = 127) :
    ofStatusWord word = .terminated none := by
  have hexited : signalBits word ≠ 0 := fun hzero =>
    absurd (signalBits_eq_zero_iff.mp hzero) (by omega)
  have hword : word ≠ 0 := by
    rintro rfl
    exact hexited rfl
  unfold ofStatusWord
  rw [if_neg hword, if_neg hexited, if_pos (signalBits_eq_all_iff.mpr h)]

/-- Every word says one of three things. -/
theorem exited_or_killed_or_neither (word : UInt32) :
    (∃ status ≤ 255, Exited word status) ∨ (∃ signal ≤ 126, Killed word signal) ∨
      word.toNat % 128 = 127 := by
  unfold Exited Killed
  by_cases hexited : word.toNat % 128 = 0
  · exact .inl ⟨word.toNat / 256 % 256, by omega, hexited, rfl⟩
  by_cases hended : word.toNat % 128 = 127
  · exact .inr (.inr hended)
  · exact .inr (.inl ⟨word.toNat % 128, by omega, rfl, hexited, hended⟩)

/-- The word zero says that all went well. -/
theorem exited_zero : Exited 0 0 := ⟨rfl, rfl⟩

/-- The ending is what the word says, unless a word that is not zero speaks of status zero. -/
theorem tells_ofStatusWord (h : ¬ (Exited word 0 ∧ word ≠ 0)) : Tells word (ofStatusWord word) := by
  by_cases hzero : word = 0
  · rw [hzero]
    exact .success exited_zero
  rcases exited_or_killed_or_neither word with
    ⟨status, hle, hexited⟩ | ⟨signal, hle, hkilled⟩ | hneither
  · have hpos : status ≠ 0 := fun hnone => h ⟨hnone ▸ hexited, hzero⟩
    rw [ofStatusWord_of_exited hexited, if_neg hzero]
    exact .failed hexited (by omega) hle
  · rw [ofStatusWord_of_killed hkilled]
    exact .killed hkilled (by have := hkilled.2.1; omega) hle
  · rw [ofStatusWord_of_neither hneither]
    exact .neither (fun _ hexited => absurd hexited.1 (by omega))
      fun _ hkilled => hkilled.2.2 (hkilled.1.symm.trans hneither)

/-- A word says one thing only. -/
theorem Tells.eq_ofStatusWord {e : Ending} (h : Tells word e)
    (hzero : ¬ (Exited word 0 ∧ word ≠ 0)) : ofStatusWord word = e := by
  cases h with
  | success hexited =>
    have hword : word = 0 := not_not.mp fun hne => hzero ⟨hexited, hne⟩
    rw [ofStatusWord_of_exited hexited, if_pos hword]
  | failed hexited hpos _ =>
    have hword : word ≠ 0 := by
      rintro rfl
      exact absurd (hexited.2.symm.trans exited_zero.2) (by omega)
    rw [ofStatusWord_of_exited hexited, if_neg hword]
  | killed hkilled => exact ofStatusWord_of_killed hkilled
  | neither hexited hkilled =>
    rcases exited_or_killed_or_neither word with ⟨_, _, h⟩ | ⟨_, _, h⟩ | h
    · exact absurd h (hexited _)
    · exact absurd h (hkilled _)
    · exact ofStatusWord_of_neither h

/-- Only the word zero is success. -/
theorem ofStatusWord_eq_success_iff : ofStatusWord word = .success ↔ word = 0 := by
  constructor
  · intro h
    by_contra hzero
    rcases exited_or_killed_or_neither word with
      ⟨status, _, hexited⟩ | ⟨signal, _, hkilled⟩ | hneither
    · rw [ofStatusWord_of_exited hexited, if_neg hzero] at h
      cases h
    · rw [ofStatusWord_of_killed hkilled] at h
      cases h
    · rw [ofStatusWord_of_neither hneither] at h
      cases h
  · rintro rfl
    exact ofStatusWord_of_exited exited_zero

/-- No word says that status zero is a failure. -/
theorem not_tells_failed_zero : ¬ Tells word (.failed 0) := by
  intro h
  generalize he : Ending.failed 0 = e at h
  cases h with
  | failed hexited hpos hle =>
    have hcode := congrArg Int32.toInt (Ending.failed.inj he)
    rw [Int32.toInt_ofNat_of_lt (by omega), Int32.toInt_zero] at hcode
    omega
  | _ => cases he

end

/-! ## Section 3: Status zero -/

/-- The label of an exit with status zero is that of a failure. -/
theorem label_eq_exit_zero_iff (e : Ending) : e.label = "exit 0" ↔ e = .failed 0 := by
  cases e with
  | success => decide
  | failed code =>
    have hzero : (toString (0 : Int)).toList = ['0'] := by decide
    rw [Ending.failed.injEq, ← Int32.toInt_inj, ← String.toList_inj]
    constructor
    · intro h
      have htext : (toString code.toInt).toList = ['0'] := by simpa [label] using h
      rw [← hzero, toList_toString_int, toList_toString_int] at htext
      exact intText_injective htext
    · intro h
      rw [label, h]
      decide
  | terminated signal =>
    cases signal with
    | none => decide
    | some signal => simp [label, ← String.toList_inj]
  | notStarted reason => simp [label]

/-- The ending is what the status word says, with statuses from 1 to 255 and signals from 1
    to 126, for exactly those words that do not speak of status zero, and the word zero. Any
    other word makes a failure that is labeled with status zero. Only the word zero is
    success. -/
theorem ofStatusWord_eq_iff_tells (word : UInt32) :
    ((∀ e, ofStatusWord word = e ↔ Tells word e) ↔ ¬ (Exited word 0 ∧ word ≠ 0)) ∧
    ((ofStatusWord word).label = "exit 0" ↔ Exited word 0 ∧ word ≠ 0) ∧
    ((ofStatusWord word).isSuccess = true ↔ word = 0) := by
  have hzero : Exited word 0 ∧ word ≠ 0 → ofStatusWord word = .failed 0 := by
    rintro ⟨hexited, hword⟩
    rw [ofStatusWord_of_exited hexited, if_neg hword]
    rfl
  refine ⟨⟨?_, ?_⟩, ?_, ?_⟩
  · -- such a word says success
    intro hagree h
    have hsuccess := (hagree .success).mpr (.success h.1)
    rw [hzero h] at hsuccess
    cases hsuccess
  · intro h e
    exact ⟨fun heq => heq ▸ tells_ofStatusWord h, fun htells => htells.eq_ofStatusWord h⟩
  · rw [label_eq_exit_zero_iff]
    refine ⟨fun hfailed => ?_, hzero⟩
    by_contra h
    exact not_tells_failed_zero (hfailed ▸ tells_ofStatusWord h)
  · rw [isSuccess_iff, ofStatusWord_eq_success_iff]

/-- A word that speaks of status zero and makes a failure: the second byte is zero, and the
    one above it is not. -/
theorem ofStatusWord_beyond_status :
    Exited 65536 0 ∧ Tells 65536 .success ∧ ofStatusWord 65536 ≠ .success ∧
    ofStatusWord 65536 = .failed 0 ∧ (ofStatusWord 65536).label = "exit 0" := by
  have hexited : Exited 65536 0 := ⟨rfl, rfl⟩
  exact ⟨hexited, .success hexited, by decide, by decide, by decide⟩

end SimSweep.Ending
