import SimSweep.Proofs.Program.Course
import SimSweep.Proofs.Settings.Refusal

/-! # Before a sweep

    Before anything is run the words of the command line and the environment have to make
    settings. If they do not, it is for one of two reasons, and the run ends without a
    call of its runner (`callsOf_run_of_prepare`).
-/

namespace SimSweep

namespace Settings

/-- Why words and an environment make no settings. -/
inductive Denial where
  /-- The words ask for something else, or there is a fault in them. -/
  | stopped (reason : Usage.Stop)
  /-- The settings that they would make are refused. -/
  | refused (failure : Failure)
  deriving DecidableEq

/-- The settings that words and an environment make. -/
def prepare (words : List Word) (env : Environment) : Except Denial Settings :=
  match Usage.read words with
  | .error reason => .error (.stopped reason)
  | .ok a => (load a env).mapError .refused

theorem prepare_of_read_error {words : List Word} {env : Environment} {reason : Usage.Stop}
    (h : Usage.read words = .error reason) : prepare words env = .error (.stopped reason) := by
  unfold prepare
  rw [h]

theorem prepare_of_read_ok {words : List Word} {env : Environment} {a : Arguments}
    (h : Usage.read words = .ok a) : prepare words env = (load a env).mapError .refused := by
  unfold prepare
  rw [h]

/-- What the user has to put right is in the configuration or in its values. -/
theorem IsRefusal.category {f : Failure} (h : IsRefusal f) :
    f.category = "CONFIG" ∨ f.category = "VALIDATION" := by
  cases f with
  | config fault => exact .inl rfl
  | validation fault => exact .inr rfl
  | launch fault => cases h
  | sweep failed total => cases h
  | internal message => cases h

end Settings

/-- A run that is not prepared calls nothing. -/
theorem Program.callsOf_run_of_prepare {words : List Word} {env : Environment}
    {denial : Settings.Denial} (h : Settings.prepare words env = .error denial) {σ : Type}
    (o : Outside σ) (start : σ) :
    callsOf ((run o.system words env).run { outside := start }).2.events = [] := by
  obtain ⟨events, hevents, hfinished⟩ := emits_run o words env { outside := start }
  rw [show ((run o.system words env).run { outside := start }).2.events = events from hevents]
  cases hfinished with
  | @stopped reason _ _ _ hstopped =>
    cases reason <;>
    · obtain ⟨_, rfl⟩ := hstopped
      rfl
  | ran hread hran _ =>
    cases hran with
    | refused _ hremarks => exact hremarks.callsOf_eq_nil
    | swept hload _ =>
      rw [Settings.prepare_of_read_ok hread, hload] at h
      cases h

end SimSweep
