import SimSweep.Sweep

/-! # The loop of a sweep

    A sweep on a stage with a state `W` is a loop over the points of the plan. To
    prove something of it, one gives a property of three things: of the invocations
    that are recorded, of the points that are left, and of the state. If launching
    a point takes such a property from one round to the next, it holds when no
    points are left.

    Most properties do not care about clocks and logging. For them it is enough
    that every single action of the stage keeps them, which is what `Keeps` says.
-/

namespace SimSweep.Stage

variable {W : Type}

/-! ## Section 1: The rule of the loop -/

/-- The rule of the loop. Induction on the points that are left; the property is
    carried along at every length of what has been recorded, since the index of an
    invocation counts that. -/
theorem invokeAll_rule (s : Stage (StateM W)) (t : Template) (total : Nat)
    (P : List Invocation → List Point → W → Prop)
    (round : ∀ done p rest w, P done (p :: rest) w →
      P (done ++ [((s.invoke t total (done.length + 1) p).run w).1]) rest
        ((s.invoke t total (done.length + 1) p).run w).2) :
    ∀ (points : List Point) (r : Report) (w : W), P r.invocations points w →
      P ((s.invokeAll t total (r.invocations.length + 1) points r).run w).1.invocations []
        ((s.invokeAll t total (r.invocations.length + 1) points r).run w).2 := by
  intro points
  induction points with
  | nil =>
    intro r w h
    exact h
  | cons p rest ih =>
    intro r w h
    have hround := round r.invocations p rest w h
    have hnext := ih (r.record ((s.invoke t total (r.invocations.length + 1) p).run w).1)
      ((s.invoke t total (r.invocations.length + 1) p).run w).2 hround
    -- the next index is the length of the longer record
    have hlength : (r.record ((s.invoke t total (r.invocations.length + 1) p).run w).1
        ).invocations.length + 1 = r.invocations.length + 1 + 1 := by
      simp [Report.record]
    rw [hlength] at hnext
    exact hnext

/-! ## Section 2: Properties that every action keeps -/

/-- A property of a sweep in progress that every action of its stage keeps. Running
    a command moves the foremost point that is left to the record. -/
structure Keeps (s : Stage (StateM W)) (t : Template)
    (P : List Invocation → List Point → W → Prop) : Prop where
  now : ∀ {done rest w}, P done rest w → P done rest (s.now.run w).2
  clock : ∀ {done rest w}, P done rest w → P done rest (s.clock.run w).2
  log : ∀ remark {done rest w}, P done rest w → P done rest ((s.log remark).run w).2
  run : ∀ duration {done p rest w}, P done (p :: rest) w →
    P (done ++ [⟨p, t.render p, ((s.run (t.render p)).run w).1, duration⟩]) rest
      ((s.run (t.render p)).run w).2

namespace Keeps

variable {s : Stage (StateM W)} {t : Template} {P : List Invocation → List Point → W → Prop}

/-- One round: the remarks and the readings of the clock stand around the command. -/
theorem invoke (k : s.Keeps t P) {done : List Invocation} {p : Point} {rest : List Point}
    {w : W} (total index : Nat) (h : P done (p :: rest) w) :
    P (done ++ [((s.invoke t total index p).run w).1]) rest
      ((s.invoke t total index p).run w).2 := by
  -- start remark, clock, command, clock, end remark
  have hlogged := k.log (Log.Progress.invocationStart index total p (t.render p)) h
  have hbegan := k.clock hlogged
  have hended := fun duration => k.clock (k.run duration hbegan)
  exact k.log _ (hended _)

/-- A whole sweep: a property that holds when nothing is recorded and every point is
    left holds of the report when no point is left. -/
theorem sweep (k : s.Keeps t P) (plan : Plan) (w : W) (h : P [] plan.points w) :
    P ((s.sweep t plan).run w).1.invocations [] ((s.sweep t plan).run w).2 := by
  have hstart := k.log (Log.Progress.start plan t s.runnerName) (k.clock (k.now h))
  have hloop := s.invokeAll_rule t plan.count P
    (fun done p rest w h => k.invoke plan.count (done.length + 1) h) plan.points
    { startedAt := (s.now.run w).1 } _ hstart
  exact k.log _ (k.clock hloop)

end Keeps

/-! ## Section 3: Every point in its turn -/

/-- A record and the points that are left make up a plan, and every command of the
    record is that of its point. -/
structure Follows (t : Template) (plan : Plan) (done : List Invocation) (rest : List Point) :
    Prop where
  points : done.map Invocation.point ++ rest = plan.points
  commands : done.map Invocation.command = (done.map Invocation.point).map t.render

/-- Whatever a stage does, its sweep goes through the whole plan in order. -/
theorem keeps_follows (s : Stage (StateM W)) (t : Template) (plan : Plan) :
    s.Keeps t fun done rest _ => Follows t plan done rest where
  now h := h
  clock h := h
  log _ _ _ _ h := h
  run := by
    -- a point changes sides and its command goes with it
    intro duration done p rest w h
    constructor
    · rw [← h.points]
      simp
    · simp [h.commands]

/-- The report of a sweep holds the points of the plan in order. -/
theorem map_point_sweep (s : Stage (StateM W)) (t : Template) (plan : Plan) (w : W) :
    ((s.sweep t plan).run w).1.invocations.map Invocation.point = plan.points := by
  have h := (keeps_follows s t plan).sweep plan w ⟨rfl, rfl⟩
  simpa using h.points

/-- The report of a sweep holds the commands of the points of the plan. -/
theorem map_command_sweep (s : Stage (StateM W)) (t : Template) (plan : Plan) (w : W) :
    ((s.sweep t plan).run w).1.invocations.map Invocation.command =
      plan.points.map t.render := by
  have h := (keeps_follows s t plan).sweep plan w ⟨rfl, rfl⟩
  rw [h.commands, map_point_sweep]

end SimSweep.Stage
