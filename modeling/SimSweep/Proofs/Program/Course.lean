import SimSweep.Proofs.Program.World
import SimSweep.Proofs.Report.Verdict
import SimSweep.Proofs.Serial.Report
import SimSweep.Proofs.Sweep.Loop

/-! # Runs of the program

    What a run does, for every way that it can take (`emits_run`). It stops while the
    arguments are read, or it is refused for want of settings and only remarks on that,
    or it takes a `Course`: remarks on the standard error stream with the commands of
    the plan in order between them, then the report, then remarks again.
-/

namespace SimSweep.Program

/-! ## Section 1: The sweep -/

/-- The event of a runner that has dealt with a command. -/
inductive Deed : Runner → String → Ending → Event → Prop where
  | launched (path : String) (route : Route) (command : String) (ending : Ending) :
      Deed (.shell path route) command ending (.launched path route.stream command ending)
  | listed (route : Route) (command : String) :
      Deed (.listing route) command .success (.listed route.stream command)

/-- A deed is a call with the command and its ending. -/
theorem Deed.call?_eq {runner : Runner} {command : String} {ending : Ending} {event : Event}
    (h : Deed runner command ending event) : event.call? = some (command, ending) := by
  cases h <;> rfl

/-- Some events tell of a record: each invocation is a deed of the runner, in order, and
    between the deeds there are remarks. -/
inductive Told (runner : Runner) : List Invocation → List Event → Prop where
  | start : Told runner [] []
  | remark {done : List Invocation} {events : List Event} (text : List Char) :
      Told runner done events → Told runner done (events ++ [.wrote .error text])
  | deed {done : List Invocation} {events : List Event} {i : Invocation} {event : Event} :
      Told runner done events → Deed runner i.command i.ending event →
      Told runner (done ++ [i]) (events ++ [event])

namespace Told

variable {runner : Runner} {done : List Invocation} {events : List Event}

/-- Remarks may come after. Induction on the remarks, for any telling before them. -/
theorem append_remarks : ∀ {closing events : List Event}, Remarks closing →
    Told runner done events → Told runner done (events ++ closing) := by
  intro closing
  induction closing with
  | nil =>
    intro events _ h
    rw [List.append_nil]
    exact h
  | cons e rest ih =>
    intro events hc h
    obtain ⟨text, rfl⟩ := hc e (by simp)
    have hrest : Remarks rest := fun e' he' => hc e' (by simp [he'])
    have hnext := ih hrest (h.remark text)
    rw [List.append_assoc] at hnext
    exact hnext

/-- Remarks may come first. -/
theorem remarks_append {opening : List Event} (ho : Remarks opening) (h : Told runner done events) :
    Told runner done (opening ++ events) := by
  induction h with
  | start =>
    -- nothing is told yet, so the remarks come after it as well
    rw [List.append_nil]
    exact Told.start.append_remarks ho
  | remark text _ ih =>
    rw [← List.append_assoc]
    exact .remark text ih
  | deed _ hdeed ih =>
    rw [← List.append_assoc]
    exact .deed ih hdeed

/-- The calls that are told are those that are recorded. -/
theorem callsOf_eq (h : Told runner done events) :
    callsOf events = done.map fun i => (i.command, i.ending) := by
  unfold callsOf
  induction h with
  | start => rfl
  | remark text _ ih =>
    rw [List.filterMap_append, ih]
    exact List.append_nil _
  | deed _ hdeed ih =>
    rw [List.filterMap_append, List.map_append, ih]
    simp [hdeed.call?_eq]

/-- Every call that is told is a deed of the runner. -/
theorem deed_of_call? (h : Told runner done events) :
    ∀ e ∈ events, ∀ command ending, e.call? = some (command, ending) →
      Deed runner command ending e := by
  induction h with
  | start =>
    intro e he
    cases he
  | remark text _ ih =>
    intro e he command ending hcall
    rcases List.mem_append.mp he with hbefore | hlast
    · exact ih e hbefore command ending hcall
    · rw [List.mem_singleton.mp hlast] at hcall
      cases hcall
  | deed _ hdeed ih =>
    intro e he command ending hcall
    rcases List.mem_append.mp he with hbefore | hlast
    · exact ih e hbefore command ending hcall
    · rw [List.mem_singleton.mp hlast] at hcall ⊢
      cases hdeed.call?_eq.symm.trans hcall
      exact hdeed

end Told

section Parts

variable {σ : Type} (o : Outside σ) (emits : Bool)

/-- A log call writes one text, which is empty when the level is too low. -/
theorem emits_log (logger : Log.Logger) (remark : Log.Remark) :
    Emits (log o.system emits logger remark) fun _ events =>
      ∃ text, events = [.wrote .error text] := by
  refine .bind (.ask o.now) fun time before hbefore => ?_
  subst hbefore
  exact (Emits.note _).mono fun _ events h => ⟨_, h⟩

theorem emits_writeLine (stream : Stream) (cs : List Char) :
    Emits (writeLine o.system stream cs) fun _ events =>
      events = [.wrote stream (cs ++ ['\n'])] :=
  .note _

/-- A runner does its deed and nothing else. -/
theorem emits_run_runner (runner : Runner) (command : String) :
    Emits (runner.run o.system.toOutlet command) fun ending events =>
      ∃ event, Deed runner command ending event ∧ events = [event] := by
  cases runner with
  | shell path route =>
    refine .bind (.ask (o.child path route.stream command)) fun ending before hbefore => ?_
    subst hbefore
    refine .bind (.note _) fun _ noted hnoted => .pure ?_
    subst hnoted
    exact ⟨_, .launched path route command ending, rfl⟩
  | listing route =>
    refine .bind (.note (.listed route.stream command)) fun _ noted hnoted => .pure ?_
    subst hnoted
    exact ⟨_, .listed route command, rfl⟩

/-- Since a world was left, events have been added that tell of a record. -/
def ToldSince (runner : Runner) (w₀ : World σ) (done : List Invocation) (w : World σ) : Prop :=
  ∃ events, w.events = w₀.events ++ events ∧ Told runner done events

/-- Every action of the stage of the program goes on with the telling. -/
theorem keeps_told (s : Settings) (session : String) (t : Template) (w₀ : World σ) :
    (stage o.system emits s session).Keeps t fun done _ w =>
      ToldSince (.ofSettings s) w₀ done w where
  -- the outside is asked and nothing is noted
  now h := h
  clock h := h
  log := by
    intro remark done rest w h
    obtain ⟨events, hevents, htold⟩ := h
    obtain ⟨added, hadded, text, rfl⟩ := emits_log o emits (.inSession "SWEEP" session s) remark w
    refine ⟨events ++ [.wrote .error text], ?_, .remark text htold⟩
    rw [← List.append_assoc, ← hevents]
    exact hadded
  run := by
    intro duration done p rest w h
    obtain ⟨events, hevents, htold⟩ := h
    obtain ⟨added, hadded, event, hdeed, rfl⟩ :=
      emits_run_runner o (.ofSettings s) (t.render p) w
    refine ⟨events ++ [event], ?_, .deed htold hdeed⟩
    rw [← List.append_assoc, ← hevents]
    exact hadded

/-- The sweep of the program goes through the plan and tells of its record. -/
theorem emits_sweep (s : Settings) (session : String) :
    Emits ((stage o.system emits s session).sweep s.toTemplate s.toPlan) fun r events =>
      Told (.ofSettings s) r.invocations events ∧
        Stage.Follows s.toTemplate s.toPlan r.invocations [] := by
  intro w
  obtain ⟨events, hevents, htold⟩ :=
    (keeps_told o emits s session s.toTemplate w).sweep s.toPlan w
      ⟨[], (List.append_nil _).symm, .start⟩
  have hfollows := (Stage.keeps_follows (stage o.system emits s session)
    s.toTemplate s.toPlan).sweep s.toPlan w ⟨rfl, rfl⟩
  exact ⟨events, hevents, htold, hfollows⟩

/-! ## Section 2: Whole runs -/

/-- The events of writing a report. -/
def reportEvents (s : Settings) (r : Report) : List Event :=
  if s.jsonReport then [.wrote .output (r.prettyText ++ ['\n'])]
  else if s.dryRun then []
  else [.wrote .error ((r.displayText ⟨s.colors, s.verbose⟩ emits).toList ++ ['\n'])]

/-- A report is written without fail, as every report has a text. -/
theorem emits_writeReport (s : Settings) (r : Report) :
    Emits (writeReport o.system emits s r) fun result events =>
      result = .ok () ∧ events = reportEvents emits s r := by
  unfold writeReport reportEvents
  split
  · rw [r.jsonText_eq]
    refine .bind (emits_writeLine o .output _) fun _ line hline => .pure ⟨rfl, ?_⟩
    rw [List.append_nil, hline, String.toList_ofList]
  · by_cases hdry : s.dryRun
    · rw [if_pos hdry, if_neg (not_not_intro hdry)]
      exact .pure ⟨rfl, rfl⟩
    · rw [if_neg hdry, if_pos hdry]
      refine .bind (emits_writeLine o .error _) fun _ line hline => .pure ⟨rfl, ?_⟩
      rw [List.append_nil, hline]

/-- The course of a run that gets as far as a sweep. -/
structure Course (s : Settings) (r : Report) (events : List Event) : Prop where
  follows : Stage.Follows s.toTemplate s.toPlan r.invocations []
  account : ∃ told closing, Told (.ofSettings s) r.invocations told ∧ Remarks closing ∧
    events = told ++ reportEvents emits s r ++ closing

variable {emits}

theorem Course.remarks_append {s : Settings} {r : Report} {opening events : List Event}
    (ho : Remarks opening) (h : Course emits s r events) :
    Course emits s r (opening ++ events) := by
  obtain ⟨told, closing, htold, hclosing, rfl⟩ := h.account
  refine ⟨h.follows, opening ++ told, closing, htold.remarks_append ho, hclosing, ?_⟩
  simp only [List.append_assoc]

theorem Course.append_remarks {s : Settings} {r : Report} {events closing : List Event}
    (hc : Remarks closing) (h : Course emits s r events) :
    Course emits s r (events ++ closing) := by
  obtain ⟨told, closing', htold, hclosing, rfl⟩ := h.account
  refine ⟨h.follows, told, closing' ++ closing, htold, hclosing.append hc, ?_⟩
  simp only [List.append_assoc]

variable (emits)

/-- What a sweep with some settings comes to. -/
def judged (s : Settings) (r : Report) : Except Failure Unit :=
  if s.strict then r.verdict else .ok ()

/-- Settings are swept with to the end, whatever the children do. -/
theorem emits_sweepSettings (s : Settings) :
    Emits (sweepSettings o.system emits s) fun result events =>
      Told (.ofSettings s) result.2.invocations events ∧
        Stage.Follows s.toTemplate s.toPlan result.2.invocations [] := by
  refine .bind (.ask o.newSession) fun session before hbefore => ?_
  subst hbefore
  refine .bind (emits_log o emits (.inSession "MAIN" session s) _) fun _ remark hremark => ?_
  obtain ⟨text, rfl⟩ := hremark
  refine .bind (emits_sweep o emits s session) fun r told htold => .pure ?_
  refine ⟨?_, htold.2⟩
  simpa using htold.1.remarks_append (.single text)

/-- A failure only shows in the result. A sweep that is not strict may remark on failures
    that it ignores. -/
theorem emits_judge (s : Settings) (session : String) (r : Report) :
    Emits (judge o.system emits s session r) fun result events =>
      Remarks events ∧ result = judged s r := by
  unfold judge judged
  split
  · exact .pure ⟨.nil, rfl⟩
  · split
    · refine .bind (emits_log o emits (.inSession "MAIN" session s) _) fun _ leniency h => ?_
      obtain ⟨text, rfl⟩ := h
      exact .pure ⟨.single text, rfl⟩
    · exact .pure ⟨.nil, rfl⟩

/-- Settings are swept with to the end, and then the report is written and judged. -/
theorem emits_runSettings (s : Settings) :
    Emits (runSettings o.system emits s) fun result events =>
      ∃ r, Course emits s r events ∧ result = judged s r := by
  refine .bind (emits_sweepSettings o emits s) fun ⟨session, r⟩ told htold => ?_
  refine .bind (emits_writeReport o emits s r) fun written report hreport => ?_
  obtain ⟨rfl, rfl⟩ := hreport
  refine (emits_judge o emits s session r).mono fun result closing hclosing => ?_
  refine ⟨r, ⟨htold.2, told, closing, htold.1, hclosing.1, ?_⟩, hclosing.2⟩
  rw [List.append_assoc]

/-- What a run with some arguments does and comes to: it takes a course if there are
    settings, and if there are none it remarks on that and nothing more. -/
inductive Ran (env : Environment) (a : Arguments) : Except Failure Unit → List Event → Prop where
  | refused {f : Failure} {events : List Event} :
      Settings.load a env = .error f → Remarks events → Ran env a (.error f) events
  | swept {s : Settings} {r : Report} {events : List Event} :
      Settings.load a env = .ok s → Course emits s r events → Ran env a (judged s r) events

variable {emits}

theorem Ran.remarks_append {env : Environment} {a : Arguments} {result : Except Failure Unit}
    {opening events : List Event} (ho : Remarks opening) (h : Ran emits env a result events) :
    Ran emits env a result (opening ++ events) := by
  cases h with
  | refused hload hremarks => exact .refused hload (ho.append hremarks)
  | swept hload hcourse => exact .swept hload (hcourse.remarks_append ho)

theorem Ran.append_remarks {env : Environment} {a : Arguments} {result : Except Failure Unit}
    {events closing : List Event} (hc : Remarks closing) (h : Ran emits env a result events) :
    Ran emits env a result (events ++ closing) := by
  cases h with
  | refused hload hremarks => exact .refused hload (hremarks.append hc)
  | swept hload hcourse => exact .swept hload (hcourse.append_remarks hc)

/-- What is said for debugging comes before the rest of a run. -/
theorem emits_debugging {env : Environment} {a : Arguments}
    {rest : StateM (World σ) (Except Failure Unit)} (h : Emits rest (Ran emits env a)) :
    Emits (if a.debug then do
        writeLine o.system .error (bannerText o.build)
        writeLine o.system .error (a.summary env).toList
        rest
      else rest) (Ran emits env a) := by
  by_cases hdebug : a.debug
  · rw [if_pos hdebug]
    refine .bind (emits_writeLine o .error _) fun _ banner hbanner => ?_
    refine .bind (emits_writeLine o .error _) fun _ summary hsummary => ?_
    subst hbanner hsummary
    refine h.mono fun result events hran => ?_
    exact (hran.remarks_append (.single _)).remarks_append (.single _)
  · rw [if_neg hdebug]
    exact h

theorem emits_runArguments (env : Environment) (a : Arguments) :
    Emits (runArguments o.system env a) (Ran (Terminal.emits env o.isTerminal) env a) := by
  -- without what is said for debugging, two ways are left
  refine emits_debugging o ?_
  cases hload : Settings.load a env with
  | error f => exact .pure (.refused hload .nil)
  | ok s =>
    refine (emits_runSettings o _ s).mono fun result events h => ?_
    obtain ⟨r, hcourse, rfl⟩ := h
    exact .swept hload hcourse

/-- A failure is reported on the standard error stream alone. -/
theorem emits_reportFailure (env : Environment) (a : Arguments) (f : Failure) :
    Emits (reportFailure o.system env a f) fun _ events => Remarks events := by
  unfold reportFailure
  refine .bind (emits_writeLine o .error _) fun _ line hline => ?_
  subst hline
  by_cases hverbose : a.verbose
  · rw [if_pos hverbose]
    refine .bind (emits_writeLine o .error _) fun _ blank hblank => ?_
    subst hblank
    refine (emits_writeLine o .error _).mono fun _ advice hadvice => ?_
    subst hadvice
    exact (Remarks.single _).append ((Remarks.single _).append (.single _))
  · rw [if_neg hverbose]
    exact .pure (by simpa using Remarks.single _)

/-- What a run does and comes to that ends while its arguments are read. -/
def Stopped (build : Build) (reason : Usage.Stop) (code : Nat) (events : List Event) : Prop :=
  match reason with
  | .help long => code = 0 ∧ events = [.wrote .output (Usage.help long).toList]
  | .version => code = 0 ∧ events = [.wrote .output Usage.version.toList]
  | .fault f => code = 2 ∧ events = [.wrote .error (build.faultText f).toList]

theorem emits_stop (reason : Usage.Stop) :
    Emits (stop o.system reason) (Stopped o.build reason) := by
  -- whatever the reason, one text is written, and the code is a constant
  cases reason <;>
  · refine .bind (.note _) fun _ noted hnoted => .pure ?_
    subst hnoted
    exact ⟨rfl, rfl⟩

variable (emits)

/-- What a whole run does, with its exit code. -/
inductive Finished (build : Build) (env : Environment) (words : List Word) :
    Nat → List Event → Prop where
  | stopped {reason : Usage.Stop} {code : Nat} {events : List Event} :
      Usage.read words = .error reason → Stopped build reason code events →
      Finished build env words code events
  | ran {a : Arguments} {result : Except Failure Unit} {code : Nat} {events : List Event} :
      Usage.read words = .ok a → Ran emits env a result events → code = exitCodeOf result →
      Finished build env words code events

/-- Every run of the program, in every world. -/
theorem emits_run (words : List Word) (env : Environment) :
    Emits (run o.system words env)
      (Finished (Terminal.emits env o.isTerminal) o.build env words) := by
  unfold run
  cases hread : Usage.read words with
  | error reason => exact (emits_stop o reason).mono fun code events h => .stopped hread h
  | ok a =>
    refine .bind (emits_runArguments o env a) fun result before hran => ?_
    cases result with
    | ok u =>
      refine .pure ?_
      rw [List.append_nil]
      exact .ran hread hran rfl
    | error f =>
      refine .bind (emits_reportFailure o env a f) fun _ closing hclosing => .pure ?_
      rw [List.append_nil]
      exact .ran hread (hran.append_remarks hclosing) rfl

end Parts

end SimSweep.Program
