import SimSweep.Proofs.Program.Output

/-! # Accounts of a run

    An account of a run goes through everything that is seen of it and says what it is: a
    command that is dealt with, an entry of a log, the report, the line of a failure, or one
    of the texts that are said besides. Main statement: every run with arguments has an
    account, in which every logger is one for the colors that are wanted, and of the report
    and of failures it holds those with which the run has to end, in this order
    (`account_run`).

    Accounts are put together like the parts of the run. The loop of the sweep needs an
    invariant, which is that what it has added so far has an account without an end.
-/

namespace SimSweep.Program

/-! ## Section 1: Acts -/

/-- One thing that a run does, by what it is meant for. -/
inductive Act where
  | launched (path : String) (stream : Stream) (command : String) (ending : Ending)
  | listed (stream : Stream) (command : String)
  /-- What a logger makes of a remark. -/
  | entry (logger : Log.Logger) (time : Timestamp) (remark : Log.Remark)
  /-- The report, for the terminal. -/
  | report (r : Report)
  /-- The line of a failure. -/
  | failure (f : Failure)
  /-- The report as JSON. -/
  | json (r : Report)
  | banner (build : Build)
  /-- The summary of the arguments. -/
  | summary (a : Arguments) (env : Environment)
  | blankLine
  | advice (f : Failure)

namespace Act

/-- What is seen of an act. -/
def event (o : ViewOptions) (emits : Bool) : Act → Event
  | .launched path stream command ending => .launched path stream command ending
  | .listed stream command => .listed stream command
  | .entry logger time remark => .wrote .error (logger.write emits time remark)
  | .report r => .wrote .error ((r.displayText o emits).toList ++ ['\n'])
  | .failure f => .wrote .error ((f.consoleText emits o.colors).toList ++ ['\n'])
  | .json r => .wrote .output (r.prettyText ++ ['\n'])
  | .banner build => .wrote .error (bannerText build ++ ['\n'])
  | .summary a env => .wrote .error ((a.summary env).toList ++ ['\n'])
  | .blankLine => .wrote .error ['\n']
  | .advice f => .wrote .error (f.advice.toList ++ ['\n'])

/-- Whether an act tells how a run ends: it is the report or the line of a failure. -/
def isFinal : Act → Bool
  | .report _ | .failure _ => true
  | _ => false

end Act

/-- Some events are those of acts with a given end, and every logger is one for the colors
    that are wanted. -/
def Account (o : ViewOptions) (emits : Bool) (ending : List Act) (events : List Event) : Prop :=
  ∃ acts : List Act, events = acts.map (Act.event o emits) ∧ acts.filter Act.isFinal = ending ∧
    ∀ logger time remark, .entry logger time remark ∈ acts → logger.colors = o.colors

namespace Account

variable {o : ViewOptions} {emits : Bool} {ending ending' : List Act} {before after : List Event}

theorem nil : Account o emits [] [] := ⟨[], rfl, rfl, by simp⟩

theorem append (h : Account o emits ending before) (h' : Account o emits ending' after) :
    Account o emits (ending ++ ending') (before ++ after) := by
  obtain ⟨acts, rfl, rfl, hcolors⟩ := h
  obtain ⟨acts', rfl, rfl, hcolors'⟩ := h'
  refine ⟨acts ++ acts', List.map_append.symm, List.filter_append .., ?_⟩
  intro logger time remark hmem
  rcases List.mem_append.mp hmem with hmem | hmem
  · exact hcolors logger time remark hmem
  · exact hcolors' logger time remark hmem

/-- Acts without entries, whatever they are. -/
theorem of_acts (acts : List Act) (h : ∀ logger time remark, .entry logger time remark ∉ acts) :
    Account o emits (acts.filter Act.isFinal) (acts.map (Act.event o emits)) :=
  ⟨acts, rfl, rfl, fun logger time remark hmem => absurd hmem (h logger time remark)⟩

theorem entry {logger : Log.Logger} (h : logger.colors = o.colors) (time : Timestamp)
    (remark : Log.Remark) :
    Account o emits [] [.wrote .error (logger.write emits time remark)] := by
  refine ⟨[.entry logger time remark], rfl, rfl, ?_⟩
  intro logger' time' remark' hmem
  cases List.mem_singleton.mp hmem
  exact h

/-- The deed of a runner. -/
theorem deed {runner : Runner} {command : String} {result : Ending} {event : Event}
    (h : Deed runner command result event) : Account o emits [] [event] := by
  cases h with
  | launched path route => exact of_acts [.launched path route.stream command result] (by simp)
  | listed route => exact of_acts [.listed route.stream command] (by simp)

end Account

/-! ## Section 2: The parts of a run -/

section Parts

variable {σ : Type} (o : Outside σ) (emits : Bool)

/-- A log call makes an entry. -/
theorem account_log (view : ViewOptions) (logger : Log.Logger)
    (h : logger.colors = view.colors) (remark : Log.Remark) :
    Emits (log o.system emits logger remark) fun _ events => Account view emits [] events := by
  refine .bind (.ask o.now) fun time before hbefore => ?_
  subst hbefore
  exact (Emits.note _).mono fun _ events hevents => hevents ▸ .entry h time remark

variable (s : Settings)

/-- How the report of a sweep with some settings is shown. -/
def viewOptions : ViewOptions := ⟨s.colors, s.verbose⟩

/-- Since a world was left, events have been added that have an account without an end. -/
def AccountedSince (w₀ w : World σ) : Prop :=
  ∃ events, w.events = w₀.events ++ events ∧ Account (viewOptions s) emits [] events

variable {emits s}

/-- More events that have such an account. -/
theorem AccountedSince.append {w₀ w w' : World σ} {added : List Event}
    (h : AccountedSince emits s w₀ w) (hadded : w'.events = w.events ++ added)
    (haccount : Account (viewOptions s) emits [] added) : AccountedSince emits s w₀ w' := by
  obtain ⟨events, hevents, hsince⟩ := h
  exact ⟨events ++ added, by rw [hadded, hevents, List.append_assoc], hsince.append haccount⟩

variable (emits s)

/-- Every action of the stage of the program can be accounted for. -/
theorem keeps_accounted (session : String) (t : Template) (w₀ : World σ) :
    (stage o.system emits s session).Keeps t fun _ _ w => AccountedSince emits s w₀ w where
  -- the outside is asked and nothing is noted
  now h := h
  clock h := h
  log := by
    intro remark _ _ w h
    obtain ⟨added, hadded, haccount⟩ := account_log o emits (viewOptions s)
      (.inSession "SWEEP" session s) rfl remark w
    exact h.append hadded haccount
  run := by
    intro _ _ p _ w h
    obtain ⟨added, hadded, event, hdeed, rfl⟩ :=
      emits_run_runner o (.ofSettings s) (t.render p) w
    exact h.append hadded (.deed hdeed)

theorem account_sweepSettings :
    Emits (sweepSettings o.system emits s) fun _ events =>
      Account (viewOptions s) emits [] events := by
  refine .bind (.ask o.newSession) fun session before hbefore => ?_
  subst hbefore
  refine .bind (account_log o emits (viewOptions s)
    (.inSession "MAIN" session s) rfl _) fun _ logged hlogged => ?_
  have hsweep : Emits ((stage o.system emits s session).sweep s.toTemplate s.toPlan)
      fun _ events => Account (viewOptions s) emits [] events := fun w =>
    (keeps_accounted o emits s session s.toTemplate w).sweep s.toPlan w
      ⟨[], (List.append_nil _).symm, .nil⟩
  refine .bind hsweep fun r told htold => .pure ?_
  rw [List.append_nil]
  exact hlogged.append htold

/-- The report as an act, where it is shown. -/
def reportActs (r : Report) : List Act := if s.jsonReport ∨ s.dryRun then [] else [.report r]

theorem account_reportEvents (r : Report) :
    Account (viewOptions s) emits (reportActs s r) (reportEvents emits s r) := by
  unfold reportActs reportEvents
  by_cases hjson : s.jsonReport
  · rw [if_pos (.inl hjson), if_pos hjson]
    exact Account.of_acts [.json r] (by simp)
  · by_cases hdry : s.dryRun
    · rw [if_pos (.inr hdry), if_neg hjson, if_pos hdry]
      exact .nil
    · rw [if_neg (by simp [hjson, hdry]), if_neg hjson, if_neg hdry]
      exact Account.of_acts [.report r] (by simp)

theorem account_judge (session : String) (r : Report) :
    Emits (judge o.system emits s session r) fun _ events =>
      Account (viewOptions s) emits [] events := by
  unfold judge
  split
  · exact .pure .nil
  · split
    · refine .bind (account_log o emits (viewOptions s)
        (.inSession "MAIN" session s) rfl _) fun _ logged hlogged => .pure ?_
      rw [List.append_nil]
      exact hlogged
    · exact .pure .nil

/-- The report is shown in the middle of what else is said, and it is judged. -/
theorem account_runSettings (w : World σ) :
    let r := ((sweepSettings o.system emits s).run w).1.2
    let ended := (runSettings o.system emits s).run w
    ended.1 = judged s r ∧ ∃ events, ended.2.events = w.events ++ events ∧
      Account (viewOptions s) emits (reportActs s r) events := by
  let swept := (sweepSettings o.system emits s).run w
  let written := (writeReport o.system emits s swept.1.2).run swept.2
  obtain ⟨told, htoldEvents, htold⟩ := account_sweepSettings o emits s w
  obtain ⟨report, hreportEvents, hwritten, rfl⟩ :=
    emits_writeReport o emits s swept.1.2 swept.2
  obtain ⟨closing, hclosingEvents, hclosing⟩ :=
    account_judge o emits s swept.1.1 swept.1.2 written.2
  obtain ⟨_, _, _, hjudged⟩ := emits_judge o emits s swept.1.1 swept.1.2 written.2
  unfold runSettings
  rw [World.run_bind, World.run_bind, hwritten]
  refine ⟨hjudged, told ++ reportEvents emits s swept.1.2 ++ closing, ?_, ?_⟩
  · show ((judge o.system emits s swept.1.1 swept.1.2).run written.2).2.events = _
    rw [hclosingEvents, hreportEvents, htoldEvents]
    simp only [List.append_assoc]
  · have haccount := (htold.append (account_reportEvents emits s swept.1.2)).append hclosing
    rwa [List.nil_append, List.append_nil] at haccount

end Parts

/-! ## Section 3: Whole runs -/

section Run

variable {σ : Type} (o : Outside σ) (env : Environment) (a : Arguments)

/-- How a report is shown that some arguments lead to. -/
def argumentOptions : ViewOptions := ⟨a.wantsColors env, a.verbose⟩

theorem account_debugEvents (view : ViewOptions) (emits : Bool) :
    Account view emits [] (debugEvents o env a) := by
  unfold debugEvents
  split
  · exact Account.of_acts [.banner o.build, .summary a env] (by simp)
  · exact .nil

theorem account_reportFailure (f : Failure) :
    Emits (reportFailure o.system env a f) fun _ events =>
      Account (argumentOptions env a) (Terminal.emits env o.isTerminal) [.failure f] events := by
  unfold reportFailure
  refine .bind (emits_writeLine o .error _) fun _ line hline => ?_
  subst hline
  by_cases hverbose : a.verbose
  · rw [if_pos hverbose]
    refine .bind (emits_writeLine o .error _) fun _ blank hblank => ?_
    refine (emits_writeLine o .error _).mono fun _ advice hadvice => ?_
    subst hblank hadvice
    exact Account.of_acts [.failure f, .blankLine, .advice f] (by simp)
  · rw [if_neg hverbose]
    exact .pure (Account.of_acts [.failure f] (by simp))

/-- The line of what a run comes to. -/
def verdictActs : Except Failure Unit → List Act
  | .ok () => []
  | .error f => [.failure f]

/-- The report and the failure with which a run with some arguments has to end. -/
def endingActs (start : σ) : List Act :=
  match Settings.load a env with
  | .error f => [.failure f]
  | .ok s =>
    let r := sweepReport o env a s start
    reportActs s r ++ verdictActs (judged s r)

/-- With arguments there are settings, which are swept with, or there is a failure. What is
    shown before the verdict has an account. -/
theorem account_runArguments (start : σ) :
    let ended := (runArguments o.system env a).run { outside := start }
    ∃ shown, endingActs o env a start = shown ++ verdictActs ended.1 ∧
      Account (argumentOptions env a) (Terminal.emits env o.isTerminal) shown ended.2.events := by
  intro ended
  have hdebug := account_debugEvents o env a (argumentOptions env a)
    (Terminal.emits env o.isTerminal)
  unfold endingActs
  cases hload : Settings.load a env with
  | error f =>
    have hended : ended = (.error f, sweepStart o env a start) := by
      show (runArguments o.system env a).run _ = _
      unfold runArguments sweepStart debugEvents
      simp only [hload]
      split <;> rfl
    rw [hended]
    exact ⟨[], rfl, hdebug⟩
  | ok s =>
    obtain ⟨hresult, events, hevents, haccount⟩ := account_runSettings o
      (Terminal.emits env o.isTerminal) s (sweepStart o env a start)
    rw [← run_runArguments o hload start] at hresult hevents
    -- the settings are shown as the arguments want it
    have hview : viewOptions s = argumentOptions env a := by
      obtain ⟨rfl, _⟩ := Settings.ofArguments_eq_ok_iff.mp hload
      rfl
    rw [hview] at haccount
    refine ⟨reportActs s (sweepReport o env a s start), ?_, ?_⟩
    · show _ = _ ++ verdictActs ended.1
      rw [hresult]
      rfl
    · rw [hevents]
      exact hdebug.append haccount

/-- A run with arguments has an account, with the end that it has to have. -/
theorem account_run {words : List Word} (hread : Usage.read words = .ok a) (start : σ) :
    Account (argumentOptions env a) (Terminal.emits env o.isTerminal) (endingActs o env a start)
      ((run o.system words env).run { outside := start }).2.events := by
  let ended := (runArguments o.system env a).run { outside := start }
  obtain ⟨shown, hending, haccount⟩ := account_runArguments o env a start
  unfold run
  simp only [hread]
  rw [hending, World.run_bind]
  cases ended.1 with
  | ok u =>
    show Account _ _ (shown ++ []) ended.2.events
    rw [List.append_nil]
    exact haccount
  | error f =>
    obtain ⟨closing, hclosing, hfailure⟩ := account_reportFailure o env a f ended.2
    show Account _ _ _ ((reportFailure o.system env a f).run ended.2).2.events
    rw [hclosing]
    exact haccount.append hfailure

end Run

end SimSweep.Program
