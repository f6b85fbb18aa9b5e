import Mathlib.Data.Bool.AllAny
import SimSweep.Command
import SimSweep.Proofs.Number.RoundTrip

/-! # The parts of a command

    A command is the launcher, the scenario and the program, each behind fixed text, and
    behind the program the parameters of the point. What the numbers of a point are
    written with neither ends a word nor quotes anything, and different numbers are
    written differently.
-/

namespace SimSweep

open Binary64 (isTextual isTextual_of_isDigit)

/-! ## Section 1: Run indices -/

/-- The numeral of a run index is how a whole number is shown anywhere else. -/
theorem toList_toString_int (i : Int) : (toString i).toList = intText i := by
  rw [Int.toString_eq_repr, Int.repr_eq_if]
  unfold intText
  by_cases hnegative : i < 0
  · have habs : (-i).toNat = i.natAbs := by omega
    rw [if_neg (by omega), if_pos hnegative, String.toList_append, Nat.toList_repr, habs]
    rfl
  · rw [if_pos (by omega), if_neg hnegative, Nat.toList_repr]
    congr 1
    omega

theorem isTextual_of_mem_intText {i : Int} {c : Char} (h : c ∈ intText i) : isTextual c := by
  unfold intText at h
  split at h
  · rcases List.mem_cons.mp h with rfl | h
    · rfl
    · exact isTextual_of_isDigit (Decimal.isDigit_of_mem_digitsOf h)
  · exact isTextual_of_isDigit (Decimal.isDigit_of_mem_digitsOf h)

theorem digitsOf_injective {m n : Nat} (h : Decimal.digitsOf m = Decimal.digitsOf n) : m = n := by
  rw [← Decimal.valueOf_digitsOf m, h, Decimal.valueOf_digitsOf]

theorem minus_notMem_digitsOf (n : Nat) : '-' ∉ Decimal.digitsOf n := by
  intro h
  cases Decimal.isDigit_of_mem_digitsOf h

/-- A minus is no digit, so it tells negative numbers from others. -/
theorem intText_injective {i j : Int} (h : intText i = intText j) : i = j := by
  have hminus : ∀ m n : Nat, '-' :: Decimal.digitsOf m ≠ Decimal.digitsOf n := by
    intro m n heq
    exact minus_notMem_digitsOf n (heq ▸ List.mem_cons_self)
  unfold intText at h
  split at h <;> split at h
  · have habs := digitsOf_injective (List.cons.inj h).2
    omega
  · exact absurd h (hminus _ _)
  · exact absurd h.symm (hminus _ _)
  · have habs := digitsOf_injective h
    omega

theorem runText_injective {r r' : Int64} (h : runText r = runText r') : r = r' :=
  Int64.toInt_inj.mp (intText_injective h)

namespace Template

/-! ## Section 2: The command -/

/-- A command with its parts nested to the right. -/
theorem toList_render (t : Template) (p : Point) :
    (t.render p).toList =
      t.launcher.toList ++ (" --run ".toList ++ (t.scenario.toList ++
        (" --command-template=\"".toList ++ (t.program.toList ++ (parameters p ++ ['"']))))) := by
  unfold render
  simp only [String.toList_ofList, List.append_assoc]

/-- The parameters are written with textual characters, spaces and equals signs. -/
theorem of_mem_parameters {p : Point} {c : Char} (h : c ∈ parameters p) :
    isTextual c ∨ c = ' ' ∨ c = '=' := by
  have hname : ∀ name ∈ [" --RngRun=", " --RngSeed=", " --distance=", " --intPck="],
      ∀ d ∈ name.toList, isTextual d ∨ d = ' ' ∨ d = '=' := by
    simp only [← List.all_iff_forall_prop]
    decide
  unfold parameters at h
  simp only [List.mem_append] at h
  rcases h with ((((((h | h) | h) | h) | h) | h) | h) | h
  · exact hname _ (by simp) c h
  · exact .inl (isTextual_of_mem_intText h)
  · exact hname _ (by simp) c h
  · exact .inl (isTextual_of_mem_intText h)
  · exact hname _ (by simp) c h
  · exact .inl (Binary64.isTextual_of_mem_write h)
  · exact hname _ (by simp) c h
  · exact .inl (Binary64.isTextual_of_mem_write h)

/-- Nothing in the parameters quotes. -/
theorem notMem_parameters {p : Point} {c : Char} (hc : ¬ isTextual c) (hspace : c ≠ ' ')
    (hequals : c ≠ '=') : c ∉ parameters p := by
  intro h
  rcases of_mem_parameters h with h | h | h
  · exact hc h
  · exact hspace h
  · exact hequals h

end Template

end SimSweep
