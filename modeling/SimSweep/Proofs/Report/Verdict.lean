import SimSweep.Report

/-! # The verdict on a sweep

    A strict sweep is judged by its endings alone. Three traversals of the record
    take part in it: the successes are counted, the rest is a difference, and the
    invocations that were not started are picked out. They are brought together
    here, down to the exit code that the verdict stands for.
-/

namespace SimSweep

/-- Whether an ending says that the invocation was not started. -/
def Ending.isUnstarted : Ending → Bool
  | .notStarted _ => true
  | _ => false

/-- The exit code of a program that ends with a result. -/
def exitCodeOf : Except Failure Unit → Nat
  | .ok () => 0
  | .error f => f.exitCode

/-- The exit code of a strict sweep with some endings. -/
def strictCode (endings : List Ending) : Nat :=
  if endings.any Ending.isUnstarted then 3
  else if endings.any fun e => !e.isSuccess then 4
  else 0

namespace Report

/-! ## Section 1: The counts -/

theorem succeeded_le_total (r : Report) : r.succeeded ≤ r.total := List.countP_le_length

/-- The difference of the counts is positive exactly if some invocation failed. -/
theorem failed_pos_iff (r : Report) : 0 < r.failed ↔ ∃ i ∈ r.invocations, ¬ i.isSuccess := by
  -- the subtraction is exact, so it is zero only if every invocation succeeded
  have hle := r.succeeded_le_total
  have hall : r.succeeded = r.total ↔ ∀ i ∈ r.invocations, i.isSuccess = true :=
    List.countP_eq_length
  unfold failed
  constructor
  · intro h
    have hne : r.succeeded ≠ r.total := by omega
    rw [ne_eq, hall] at hne
    simpa using hne
  · rintro ⟨i, hi, hfailed⟩
    have hne : r.succeeded ≠ r.total := fun h => hfailed (hall.mp h i hi)
    omega

/-- Nothing that was started gives a reason. -/
theorem launchReason?_eq_none_iff (i : Invocation) :
    launchReason? i = none ↔ i.ending.isUnstarted = false := by
  unfold launchReason?
  cases i.ending <;> simp [Ending.isUnstarted]

/-- Reasons are found exactly where invocations were not started. -/
theorem launchReasons_eq_nil_iff (r : Report) :
    r.invocations.filterMap launchReason? = [] ↔
      (r.invocations.map Invocation.ending).any Ending.isUnstarted = false := by
  rw [List.filterMap_eq_nil_iff, List.any_eq_false]
  simp [launchReason?_eq_none_iff]

/-! ## Section 2: The code of the verdict -/

/-- The verdict stands for the exit code that its endings stand for. -/
theorem exitCodeOf_verdict (r : Report) :
    exitCodeOf r.verdict = strictCode (r.invocations.map Invocation.ending) := by
  unfold verdict strictCode
  cases hreasons : r.invocations.filterMap launchReason? with
  | cons reason others =>
    have hany : (r.invocations.map Invocation.ending).any Ending.isUnstarted = true := by
      cases h : (r.invocations.map Invocation.ending).any Ending.isUnstarted with
      | true => rfl
      | false =>
        rw [r.launchReasons_eq_nil_iff.mpr h] at hreasons
        cases hreasons
    rw [hany]
    rfl
  | nil =>
    -- everything was started, so only the count of failures is left to decide
    rw [r.launchReasons_eq_nil_iff.mp hreasons]
    have hfailed : ((r.invocations.map Invocation.ending).any fun e => !e.isSuccess) = true ↔
        0 < r.failed := by
      rw [r.failed_pos_iff]
      simp [Invocation.isSuccess]
    by_cases h : 0 < r.failed
    · rw [if_pos h, if_neg (by simp), if_pos (hfailed.mpr h)]
      rfl
    · rw [if_neg h, if_neg (by simp), if_neg (mt hfailed.mp h)]
      rfl

end Report

end SimSweep
