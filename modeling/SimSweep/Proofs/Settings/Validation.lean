import SimSweep.Settings

/-! # What validation makes sure of

    Validation succeeds exactly if every single check does (`validate_eq_ok_iff`), and
    each check is restated as the property of the value that it looks for. Whatever is
    proved about valid settings starts from these properties and not from the checks.
-/

namespace SimSweep

/-! ## Section 1: Chains of checks -/

/-- A check followed by a check succeeds if both do. -/
theorem check_bind_eq_ok_iff {x : Except Failure Unit} {f : Unit → Except Failure Unit} :
    (x >>= f) = .ok () ↔ x = .ok () ∧ f () = .ok () := by
  cases x with
  | error e =>
    constructor
    · intro h
      cases h
    · rintro ⟨h, _⟩
      cases h
  | ok u =>
    constructor
    · intro h
      exact ⟨rfl, h⟩
    · rintro ⟨_, h⟩
      exact h

/-- A check of all members succeeds if that of each does. -/
theorem forM_eq_ok_iff {α : Type} {check : α → Except Failure Unit} {xs : List α} :
    xs.forM check = .ok () ↔ ∀ x ∈ xs, check x = .ok () := by
  induction xs with
  | nil => simp [List.forM, pure, Except.pure]
  | cons x rest ih =>
    show (check x >>= fun _ => rest.forM check) = .ok () ↔ _
    rw [check_bind_eq_ok_iff, ih]
    simp

/-- A refusal that is not given leaves the rest of the check. -/
theorem refuse_eq_ok_iff {ε α : Type} {c : Prop} [Decidable c] {e : ε} {x : Except ε α} {a : α} :
    (if c then .error e else x) = .ok a ↔ ¬ c ∧ x = .ok a := by
  split
  · next hc => simp [hc]
  · next hc => simp [hc]

/-! ## Section 2: Single values -/

/-- The texts of a template keep their places in a command. -/
structure Template.Placed (t : Template) : Prop where
  launcher_nonblank : ¬ isBlankText t.launcher
  scenario_nonblank : ¬ isBlankText t.scenario
  /-- The scenario has no blank and no double quote. -/
  scenario_unbroken : ∀ c ∈ t.scenario.toList, ¬ Settings.breaksWord c
  program_nonblank : ¬ isBlankText t.program
  program_unquoted : '"' ∉ t.program.toList

namespace Settings

/-- A quantity is a number with a rank, and negative only if it is zero. -/
theorem checkQuantity_eq_ok_iff {q : Quantity} {x : Binary64} :
    checkQuantity q x = .ok () ↔ x.isFinite ∧ ¬ x.isNegative := by
  unfold checkQuantity
  rw [refuse_eq_ok_iff, refuse_eq_ok_iff]
  simp

theorem checkInterval_eq_ok_iff {x : Binary64} :
    checkInterval x = .ok () ↔ x.isWhole ∧ ¬ x.exceeds intervalLimit := by
  unfold checkInterval
  rw [refuse_eq_ok_iff, not_or]
  simp

theorem checkRate_eq_ok_iff {x : Binary64} :
    checkRate x = .ok () ↔
      (x.isFinite ∧ ¬ x.isNegative) ∧ x.isWhole ∧ ¬ x.exceeds intervalLimit := by
  unfold checkRate
  rw [check_bind_eq_ok_iff, checkQuantity_eq_ok_iff, checkInterval_eq_ok_iff]

theorem checkTemplate_eq_ok_iff {t : Template} : checkTemplate t = .ok () ↔ t.Placed := by
  unfold checkTemplate
  simp only [refuse_eq_ok_iff, and_true]
  constructor
  · rintro ⟨hlauncher, hscenario, hbreaks, hprogram, hquote⟩
    refine ⟨hlauncher, hscenario, ?_, hprogram, ?_⟩
    · intro c hc hbreak
      exact hbreaks (List.any_eq_true.mpr ⟨c, hc, hbreak⟩)
    · simpa using hquote
  · rintro ⟨hlauncher, hscenario, hbreaks, hprogram, hquote⟩
    refine ⟨hlauncher, hscenario, ?_, hprogram, by simpa using hquote⟩
    intro hany
    obtain ⟨c, hc, hbreak⟩ := List.any_eq_true.mp hany
    exact hbreaks c hc hbreak

/-! ## Section 3: All settings -/

theorem validate_eq_ok_iff {s : Settings} :
    s.validate = .ok () ↔
      (∀ x ∈ s.rates, checkRate x = .ok ()) ∧
      (∀ x ∈ s.distances, checkQuantity .distance x = .ok ()) ∧ s.toTemplate.Placed := by
  unfold validate
  rw [check_bind_eq_ok_iff, check_bind_eq_ok_iff, forM_eq_ok_iff, forM_eq_ok_iff,
    checkTemplate_eq_ok_iff]

end Settings

end SimSweep
