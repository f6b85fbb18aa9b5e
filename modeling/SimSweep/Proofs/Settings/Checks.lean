import SimSweep.Failure

/-! # What a chain of checks fails with

    Settings are read and checked step by step. Whatever such a chain fails with, one
    of its steps has failed with it, so what all failures of the single steps have in
    common is common to all failures of the chain.
-/

namespace SimSweep

/-- Every failure of a computation has a property. -/
def FailsWith {α : Type} (P : Failure → Prop) (x : Except Failure α) : Prop :=
  ∀ f, x = .error f → P f

namespace FailsWith

variable {α β : Type} {P : Failure → Prop}

theorem ok (a : α) : FailsWith P (.ok a : Except Failure α) := by
  intro f h
  cases h

theorem error {f : Failure} (hf : P f) : FailsWith P (.error f : Except Failure α) := by
  intro g h
  cases h
  exact hf

theorem ite {c : Prop} [Decidable c] {x y : Except Failure α} (hx : FailsWith P x)
    (hy : FailsWith P y) : FailsWith P (if c then x else y) := by
  split
  · exact hx
  · exact hy

theorem bind {x : Except Failure α} {f : α → Except Failure β} (hx : FailsWith P x)
    (hf : ∀ a, FailsWith P (f a)) : FailsWith P (x >>= f) := by
  intro g h
  cases hresult : x with
  | error g' =>
    rw [hresult] at h
    cases h
    exact hx g hresult
  | ok a =>
    rw [hresult] at h
    exact hf a g h

/-- A list of readings fails with what one of them fails with. -/
theorem mapM {read : α → Except Failure β} (hread : ∀ a, FailsWith P (read a)) :
    ∀ xs : List α, FailsWith P (xs.mapM read) := by
  intro xs
  induction xs with
  | nil => exact .ok []
  | cons x rest ih =>
    rw [List.mapM_cons]
    refine .bind (hread x) fun b => ?_
    exact .bind ih fun bs => .ok (b :: bs)

/-- A list of checks fails with what one of them fails with. -/
theorem forM {check : α → Except Failure Unit} (hcheck : ∀ a, FailsWith P (check a)) :
    ∀ xs : List α, FailsWith P (xs.forM check) := by
  intro xs
  induction xs with
  | nil => exact .ok ()
  | cons x rest ih => exact .bind (hcheck x) fun _ => ih

end FailsWith

end SimSweep
