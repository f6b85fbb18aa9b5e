import SimSweep.Proofs.Settings.Layers

/-! # Refused settings

    Settings can be refused on the way from the arguments to their validation, and
    every refusal is something that the user has to put right: all of them share one
    exit code. The steps are followed with `FailsWith`.
-/

namespace SimSweep.Settings

/-- A failure that the user has to put right before anything can be run. -/
def IsRefusal (f : Failure) : Prop := f.exitCode = 1

theorem checkQuantity_refuses (q : Quantity) (x : Binary64) :
    FailsWith IsRefusal (checkQuantity q x) :=
  .ite (.error rfl) (.ite (.error rfl) (.ok ()))

theorem checkRate_refuses (x : Binary64) : FailsWith IsRefusal (checkRate x) := by
  refine .bind (checkQuantity_refuses .dataRate x) fun _ => ?_
  exact .ite (.error rfl) (.ok ())

theorem checkTemplate_refuses (t : Template) : FailsWith IsRefusal (checkTemplate t) := by
  -- launcher, then both checks of the scenario, then both of the program
  refine .ite (.error rfl) (.ite (.error rfl) (.ite (.error rfl) ?_))
  exact .ite (.error rfl) (.ite (.error rfl) (.ok ()))

theorem validate_refuses (s : Settings) : FailsWith IsRefusal s.validate := by
  refine .bind (.forM checkRate_refuses s.rates) fun _ => ?_
  refine .bind (.forM (checkQuantity_refuses .distance) s.distances) fun _ => ?_
  exact checkTemplate_refuses s.toTemplate

/-- Whatever keeps arguments and environment from making settings is a refusal. -/
theorem load_refuses (a : Arguments) (env : Environment) : FailsWith IsRefusal (load a env) := by
  intro f h
  rcases ofArguments_eq_error_iff.mp h with
    ⟨_, rfl⟩ | ⟨_, hrates⟩ | ⟨_, _, hdistances⟩ | ⟨_, _, _, hvalid⟩
  -- contradicting arguments, the two lists of the environment, the validation
  · rfl
  · obtain ⟨entry, rfl⟩ := hrates.isConfig
    rfl
  · obtain ⟨entry, rfl⟩ := hdistances.isConfig
    rfl
  · exact validate_refuses _ f hvalid

/-- A sweep is strict exactly if the arguments say so. -/
theorem strict_of_load {a : Arguments} {env : Environment} {s : Settings}
    (h : load a env = .ok s) : s.strict = a.strict := by
  obtain ⟨rfl, _⟩ := ofArguments_eq_ok_iff.mp h
  rfl

end SimSweep.Settings
