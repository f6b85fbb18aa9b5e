import SimSweep.Program
import SimSweep.Proofs.Sweep.Loop

/-! # The calls of a sweep

    A sweep is watched while it runs: its runner is any machine with a state, and
    every call of the runner is noted together with the answer that it got. Clocks
    and logging go on in a state of their own.

    Main statement: the runner is called once for each point, in the order of the
    plan and with the command of that point, and the report says of every point
    what the runner answered to that very call. Nothing of this depends on what the
    runner answers, on the clocks or on logging.
-/

namespace SimSweep

/-! ## Section 1: Responders and what is seen of them -/

/-- A runner with a state. What it answers and where it goes next may depend on
    everything that it was handed before. -/
abbrev Responder (σ : Type) := String → StateM σ Ending

/-- What a sweep needs besides a runner. -/
structure Surroundings (τ : Type) where
  runnerName : String
  now : StateM τ Timestamp
  clock : StateM τ Nat
  log : Log.Remark → StateM τ Unit

/-- Surroundings in which everything is logged through a logger of a system. -/
def Surroundings.logging {τ : Type} (sys : System (StateM τ)) (emits : Bool)
    (logger : Log.Logger) (runnerName : String) : Surroundings τ where
  runnerName := runnerName
  now := sys.now
  clock := sys.clock
  log := Program.log sys emits logger

/-- A sweep in progress. -/
structure Scene (σ τ : Type) where
  runner : σ
  /-- The commands that the runner was handed, each with its answer, oldest first. -/
  calls : List (String × Ending) := []
  ambient : τ

namespace Scene

variable {σ τ : Type}

/-- Hands a command to the runner and takes note of it. -/
def call (responder : Responder σ) (command : String) : StateM (Scene σ τ) Ending := fun scene =>
  let answer := (responder command).run scene.runner
  (answer.1, { scene with runner := answer.2, calls := scene.calls ++ [(command, answer.1)] })

/-- Does something that the runner has no part in. -/
def aside {α : Type} (x : StateM τ α) : StateM (Scene σ τ) α := fun scene =>
  let result := x.run scene.ambient
  (result.1, { scene with ambient := result.2 })

end Scene

namespace Responder

variable {σ τ : Type}

/-- The stage on which a responder is watched. -/
def stage (responder : Responder σ) (a : Surroundings τ) : Stage (StateM (Scene σ τ)) where
  runnerName := a.runnerName
  run := Scene.call responder
  now := Scene.aside a.now
  clock := Scene.aside a.clock
  log remark := Scene.aside (a.log remark)

/-- What a responder answers to some commands, one after the other. -/
def answers (responder : Responder σ) (commands : List String) (start : σ) : List Ending :=
  ((commands.mapM responder).run start).1

/-- Every command is answered. -/
@[simp] theorem length_answers (responder : Responder σ) :
    ∀ (commands : List String) (start : σ),
      (responder.answers commands start).length = commands.length := by
  intro commands
  induction commands with
  | nil => intro start; rfl
  | cons command rest ih =>
    intro start
    unfold answers
    rw [List.mapM_cons]
    show (_ :: responder.answers rest ((responder command).run start).2).length = _
    rw [List.length_cons, ih, List.length_cons]

end Responder

/-- What is seen of a sweep that has ended: the calls of its runner, and point,
    command and ending of each invocation in its report. -/
structure Conduct where
  calls : List (String × Ending)
  accounts : List (Point × String × Ending)

/-- What is seen of a sweep that starts with a state of its runner. -/
def Conduct.of {σ τ : Type} (sweep : StateM (Scene σ τ) Report) (start : σ) (ambient : τ) :
    Conduct :=
  let ended := sweep.run { runner := start, ambient }
  { calls := ended.2.calls
    accounts := ended.1.invocations.map fun i => (i.point, i.command, i.ending) }

/-! ## Section 2: The invariant -/

section Watching

variable {σ τ : Type} (responder : Responder σ) (t : Template) (plan : Plan) (start : σ)

/-- A sweep in progress agrees with what was seen of its runner: the calls are the
    recorded ones, and replaying their commands from the start gives the recorded
    endings and leads to the present state. -/
structure Watched (done : List Invocation) (scene : Scene σ τ) : Prop where
  calls : scene.calls = done.map fun i => (i.command, i.ending)
  replay : ((done.map Invocation.command).mapM responder).run start =
    (done.map Invocation.ending, scene.runner)

/-- Only a call of the runner touches what the invariant speaks of, and a call adds
    the same command and the same answer to both sides. -/
theorem keeps_watched (a : Surroundings τ) :
    (responder.stage a).Keeps t fun done _ (scene : Scene σ τ) =>
      Watched responder start done scene where
  now h := ⟨h.calls, h.replay⟩
  clock h := ⟨h.calls, h.replay⟩
  log _ _ _ _ h := ⟨h.calls, h.replay⟩
  run := by
    intro duration done p rest scene h
    constructor
    · show scene.calls ++ [_] = _
      rw [h.calls, List.map_append]
      rfl
    -- the replay goes on from the state in which it left the runner
    · rw [List.map_append, List.mapM_append, StateT.run_bind, h.replay]
      simp only [List.map_append]
      rfl

/-- What is seen of a sweep follows from the plan, the template and the responder. -/
theorem conduct_eq (a : Surroundings τ) (ambient : τ) :
    Conduct.of ((responder.stage a).sweep t plan) start ambient =
      let commands := plan.points.map t.render
      let calls := commands.zip (responder.answers commands start)
      { calls, accounts := plan.points.zip calls } := by
  let scene₀ : Scene σ τ := { runner := start, ambient }
  have h := (keeps_watched responder t start a).sweep plan scene₀ ⟨rfl, rfl⟩
  have hpoints := (responder.stage a).map_point_sweep t plan scene₀
  have hcommands := (responder.stage a).map_command_sweep t plan scene₀
  unfold Conduct.of
  show Conduct.mk _ _ = _
  -- from here on only the invariant is known of the end of the sweep
  generalize ((responder.stage a).sweep t plan).run scene₀ = ended at h hpoints hcommands ⊢
  obtain ⟨report, scene⟩ := ended
  have hanswers : responder.answers (report.invocations.map Invocation.command) start =
      report.invocations.map Invocation.ending := by
    unfold Responder.answers
    rw [h.replay]
  have hcalls : scene.calls =
      (report.invocations.map Invocation.command).zip
        (report.invocations.map Invocation.ending) := by
    rw [List.zip_map', h.calls]
  have haccounts : (report.invocations.map fun i => (i.point, i.command, i.ending)) =
      (report.invocations.map Invocation.point).zip scene.calls := by
    rw [h.calls, List.zip_map']
  simp only [haccounts, hanswers, ← hcommands, hpoints, hcalls]

end Watching

/-! ## Section 3: The statement -/

/-- Without logging a stage has other surroundings and is the same otherwise. -/
theorem quiet_stage {σ τ : Type} (responder : Responder σ) (a : Surroundings τ) :
    (responder.stage a).quiet = responder.stage { a with log := fun _ => pure () } := rfl

/-- Whatever responder the runner is: it is called once for each point, in the order of
    the plan and with the command of the point; the report holds, place by place,
    the point, the command and the answer to that call. Another runner gets the same
    commands. Other surroundings, any logger among them, no logging at all, and a
    sweep over the same values given one by one make no difference. -/
theorem sweep_calls_each_point_once {σ τ : Type} (responder : Responder σ) (a : Surroundings τ)
    (t : Template) (plan : Plan) (start : σ) (ambient : τ) :
    let seen := Conduct.of ((responder.stage a).sweep t plan) start ambient
    seen.calls.map Prod.fst = plan.points.map t.render ∧
    seen.calls.map Prod.snd = responder.answers (plan.points.map t.render) start ∧
    seen.accounts = plan.points.zip seen.calls ∧
    (∀ (σ' τ' : Type) (responder' : Responder σ') (a' : Surroundings τ') (start' : σ')
      (ambient' : τ'),
      (Conduct.of ((responder'.stage a').sweep t plan) start' ambient').calls.map Prod.fst =
        seen.calls.map Prod.fst) ∧
    (∀ (τ' : Type) (a' : Surroundings τ') (ambient' : τ'),
      Conduct.of ((responder.stage a').sweep t plan) start ambient' = seen) ∧
    (∀ (τ' : Type) (sys : System (StateM τ')) (emits : Bool) (logger : Log.Logger)
      (runnerName : String) (ambient' : τ'),
      Conduct.of ((responder.stage (.logging sys emits logger runnerName)).sweep t plan)
        start ambient' = seen) ∧
    Conduct.of ((responder.stage a).quiet.sweep t plan) start ambient = seen ∧
    Conduct.of ((responder.stage a).sweepValues plan.rates plan.distances plan.firstRun
      plan.lastRun t) start ambient = seen := by
  intro seen
  have hseen : seen = _ := conduct_eq responder t plan start a ambient
  have hlength : (responder.answers (plan.points.map t.render) start).length =
      (plan.points.map t.render).length := responder.length_answers _ start
  refine ⟨?_, ?_, ?_, ?_, ?_, ?_, ?_, ?_⟩
  · rw [hseen, List.map_fst_zip (Nat.le_of_eq hlength.symm)]
  · rw [hseen, List.map_snd_zip (Nat.le_of_eq hlength)]
  · rw [hseen]
  · intro σ' τ' responder' a' start' ambient'
    have hlength' := responder'.length_answers (plan.points.map t.render) start'
    rw [conduct_eq, hseen, List.map_fst_zip (Nat.le_of_eq hlength.symm),
      List.map_fst_zip (Nat.le_of_eq hlength'.symm)]
  · intro τ' a' ambient'
    rw [conduct_eq, hseen]
  · intro τ' sys emits logger runnerName ambient'
    rw [conduct_eq, hseen]
  -- a stage without logging is another stage with the same runner
  · rw [quiet_stage, conduct_eq, hseen]
  · rw [Stage.sweepValues, quiet_stage, conduct_eq, hseen]

end SimSweep
