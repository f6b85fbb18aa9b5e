import SimSweep.Proofs.Program.World
import SimSweep.Proofs.Sweep.Loop

/-! # Across a run

    The program changes its world only through what it asks of its system. A relation between
    earlier and later worlds that holds across each thing that can be asked therefore holds
    across every run (`Respects.run`).
-/

namespace SimSweep.Program

variable {σ : Type}

/-- A relation between an earlier and a later world that holds across everything that the
    program can ask of its system. -/
structure Respects (o : Outside σ) (R : World σ → World σ → Prop) : Prop where
  refl : ∀ w, R w w
  trans : ∀ {w₁ w₂ w₃}, R w₁ w₂ → R w₂ w₃ → R w₁ w₃
  launch : ∀ path stream command w, R w ((o.system.launch path stream command).run w).2
  list : ∀ stream command w, R w ((o.system.list stream command).run w).2
  write : ∀ stream text w, R w ((o.system.write stream text).run w).2
  now : ∀ w, R w (o.system.now.run w).2
  clock : ∀ w, R w (o.system.clock.run w).2
  newSession : ∀ w, R w (o.system.newSession.run w).2

/-- A relation between worlds holds across a part of a run, wherever it begins. -/
def Across {α : Type} (R : World σ → World σ → Prop) (x : StateM (World σ) α) : Prop :=
  ∀ w, R w (x.run w).2

namespace Respects

variable {o : Outside σ} {R : World σ → World σ → Prop}

theorem pure {α : Type} (h : Respects o R) (a : α) :
    Across R (Pure.pure a : StateM (World σ) α) := h.refl

theorem bind {α β : Type} (h : Respects o R) {x : StateM (World σ) α}
    {f : α → StateM (World σ) β} (hx : Across R x) (hf : ∀ a, Across R (f a)) :
    Across R (x >>= f) := fun w => h.trans (hx w) (hf _ _)

variable (h : Respects o R) (emits : Bool) (s : Settings)

include h

/-! ## Section 1: The sweep -/

theorem writeLine (stream : Stream) (cs : List Char) :
    Across R (writeLine o.system stream cs) := h.write stream _

theorem log (logger : Log.Logger) (remark : Log.Remark) :
    Across R (log o.system emits logger remark) :=
  h.bind h.now fun _ => h.write .error _

theorem runner (runner : Runner) (command : String) :
    Across R (runner.run o.system.toOutlet command) := by
  cases runner with
  | shell path route => exact h.launch path route.stream command
  | listing route => exact h.bind (h.list route.stream command) fun _ => h.pure _

/-- Since a world was left, the stage of the program has kept to the relation. -/
theorem keeps_stage (session : String) (t : Template) (w₀ : World σ) :
    (stage o.system emits s session).Keeps t fun _ _ w => R w₀ w where
  now hw := h.trans hw (h.now _)
  clock hw := h.trans hw (h.clock _)
  log remark _ _ _ hw := h.trans hw (h.log emits _ remark _)
  run _ _ _ _ _ hw := h.trans hw (h.runner _ _ _)

theorem sweepSettings : Across R (sweepSettings o.system emits s) := by
  refine h.bind h.newSession fun session => h.bind (h.log emits _ _) fun _ => ?_
  refine h.bind (fun w => ?_) fun _ => h.pure _
  exact (h.keeps_stage emits s session s.toTemplate w).sweep s.toPlan w (h.refl w)

/-! ## Section 2: The rest of a run -/

theorem writeReport (r : Report) : Across R (writeReport o.system emits s r) := by
  unfold Program.writeReport
  split
  · split
    · exact h.pure _
    · exact h.bind (h.writeLine .output _) fun _ => h.pure _
  · split
    · exact h.bind (h.writeLine .error _) fun _ => h.pure _
    · exact h.pure _

theorem judge (session : String) (r : Report) : Across R (judge o.system emits s session r) := by
  unfold Program.judge
  split
  · exact h.pure _
  · split
    · exact h.bind (h.log emits _ _) fun _ => h.pure _
    · exact h.pure _

theorem runSettings : Across R (runSettings o.system emits s) := by
  refine h.bind (h.sweepSettings emits s) fun swept => ?_
  refine h.bind (h.writeReport emits s swept.2) fun written => ?_
  cases written with
  | error f => exact h.pure _
  | ok _ => exact h.judge emits s swept.1 swept.2

variable (env : Environment) (a : Arguments)

theorem runArguments : Across R (runArguments o.system env a) := by
  -- what is said first for those who want to know more
  have hsaid : ∀ {β : Type} {x : StateM (World σ) β}, Across R x → Across R (do
      if a.debug then
        Program.writeLine o.system .error (bannerText o.system.build)
        Program.writeLine o.system .error (a.summary env).toList
      x) := by
    intro β x hx
    dsimp only
    split
    · exact h.bind (h.writeLine .error _) fun _ => h.bind (h.writeLine .error _) fun _ => hx
    · exact hx
  unfold Program.runArguments
  split
  · exact hsaid (h.pure _)
  · exact hsaid (h.runSettings _ _)

theorem reportFailure (f : Failure) : Across R (reportFailure o.system env a f) := by
  unfold Program.reportFailure
  refine h.bind (h.writeLine .error _) fun _ => ?_
  split
  · exact h.bind (h.writeLine .error _) fun _ => h.writeLine .error _
  · exact h.pure _

theorem stop (reason : Usage.Stop) : Across R (stop o.system reason) := by
  cases reason with
  | help long => exact h.bind (h.write .output _) fun _ => h.pure _
  | version => exact h.bind (h.write .output _) fun _ => h.pure _
  | fault f => exact h.bind (h.write .error _) fun _ => h.pure _

/-- The relation holds across every run of the program. -/
theorem run (words : List Word) : Across R (run o.system words env) := by
  unfold Program.run
  split
  · exact h.stop _
  · rename_i a _
    refine h.bind (h.runArguments env a) fun ended => ?_
    cases ended with
    | ok _ => exact h.pure _
    | error f => exact h.bind (h.reportFailure env a f) fun _ => h.pure _

end Respects

end SimSweep.Program
