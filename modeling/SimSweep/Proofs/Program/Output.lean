import Mathlib.Control.Monad.Basic
import SimSweep.Proofs.Program.ExitCode
import SimSweep.Proofs.Serial.Report
import SimSweep.Proofs.Settings.Layers

/-! # The standard output of a run

    Main statement: what a run puts on the standard output is fixed by two flags. It is
    the JSON text of the report, or the list of the commands, or nothing. The runner, the
    loggers, the banner, the report for the terminal and the message of a failure all
    write as well; each of them is followed to its stream, through every way that a run
    with settings can take.
-/

namespace SimSweep.Program

@[simp] theorem printedOn_append (stream : Stream) (before after : List Event) :
    printedOn stream (before ++ after) = printedOn stream before ++ printedOn stream after :=
  List.flatMap_append

/-! ## Section 1: The parts of a course -/

/-- What the runner of some settings lists on the standard output, given commands. -/
def listedText (s : Settings) (commands : List String) : List Char :=
  if s.jsonReport ∨ ¬ s.dryRun then [] else asLines (commands.map String.toList)

theorem listedText_append (s : Settings) (commands more : List String) :
    listedText s (commands ++ more) = listedText s commands ++ listedText s more := by
  unfold listedText asLines
  split
  · rfl
  · rw [List.map_append, List.flatMap_append]

/-- A deed is listed where the report is not, and only if nothing is launched. -/
theorem Deed.textOn_output {s : Settings} {command : String} {ending : Ending} {event : Event}
    (h : Deed (.ofSettings s) command ending event) :
    event.textOn .output = listedText s [command] := by
  unfold Runner.ofSettings Route.ofSettings at h
  unfold listedText
  by_cases hdry : s.dryRun
  · rw [if_pos hdry] at h
    cases h
    by_cases hjson : s.jsonReport
    · simp [hjson, Event.textOn, Route.stream]
    · simp [hjson, hdry, Event.textOn, Route.stream, asLines]
  · rw [if_neg hdry] at h
    cases h
    simp [hdry, Event.textOn]

/-- Where the report is JSON both the output of children and the list are diverted. -/
theorem Deed.stream_of_json {s : Settings} {command : String} {ending : Ending} {event : Event}
    (h : Deed (.ofSettings s) command ending event) (hjson : s.jsonReport) :
    event.stream = .error := by
  unfold Runner.ofSettings Route.ofSettings at h
  rw [if_pos hjson] at h
  split at h <;>
  · cases h
    rfl

/-- What is told of a record lists its commands. Induction on the telling; remarks are no
    part of the list. -/
theorem Told.printedOn_output {s : Settings} {done : List Invocation} {events : List Event}
    (h : Told (.ofSettings s) done events) :
    printedOn .output events = listedText s (done.map Invocation.command) := by
  induction h with
  | start =>
    unfold listedText
    split <;> rfl
  | remark text _ ih =>
    rw [printedOn_append, ih, (Remarks.single text).printedOn_output, List.append_nil]
  | @deed _ _ _ event _ hdeed ih =>
    rw [printedOn_append, ih, List.map_append, listedText_append]
    congr 1
    show event.textOn .output ++ [] = _
    rw [List.append_nil]
    exact hdeed.textOn_output

/-- What a run with some settings puts on the standard output. -/
def outputText (s : Settings) (r : Report) : List Char :=
  if s.jsonReport then r.prettyText ++ ['\n']
  else if s.dryRun then asLines (s.points.map fun p => (s.toTemplate.render p).toList)
  else []

/-! ## Section 2: Courses -/

namespace Course

variable {emits : Bool} {s : Settings} {r : Report} {events : List Event}
  (h : Course emits s r events)

include h

/-- The record of a course holds the points of the plan. -/
theorem map_point : r.invocations.map Invocation.point = s.points := by
  simpa using h.follows.points

/-- Before the report the commands may be listed, behind it nothing is written but
    remarks. -/
theorem printedOn_output : printedOn .output events = outputText s r := by
  have hcommands : r.invocations.map Invocation.command = s.points.map s.toTemplate.render := by
    rw [h.follows.commands, h.map_point]
  obtain ⟨told, closing, htold, hclosing, rfl⟩ := h.account
  rw [printedOn_append, printedOn_append, htold.printedOn_output, hclosing.printedOn_output,
    List.append_nil, hcommands]
  unfold listedText outputText reportEvents
  by_cases hjson : s.jsonReport
  · simp [hjson, printedOn, Event.textOn]
  · by_cases hdry : s.dryRun
    · simp [hjson, hdry, printedOn, Function.comp_def]
    · simp [hjson, hdry, printedOn, Event.textOn]

/-- Where the report is JSON nothing else may appear on the standard output: children and
    lists are diverted. -/
theorem filter_output_of_json (hjson : s.jsonReport) :
    events.filter (fun e => e.stream = .output) = [.wrote .output (r.prettyText ++ ['\n'])] := by
  have hdiverted : ∀ {done : List Invocation} {told : List Event},
      Told (.ofSettings s) done told → told.filter (fun e => e.stream = .output) = [] := by
    intro done told htold
    induction htold with
    | start => rfl
    | remark text _ ih =>
      rw [List.filter_append, ih]
      rfl
    | deed _ hdeed ih =>
      rw [List.filter_append, ih, List.nil_append, List.filter_eq_nil_iff]
      simp [hdeed.stream_of_json hjson]
  have hremarks : ∀ {closing : List Event}, Remarks closing →
      closing.filter (fun e => e.stream = .output) = [] := by
    intro closing hclosing
    rw [List.filter_eq_nil_iff]
    intro e he
    obtain ⟨text, rfl⟩ := hclosing e he
    simp [Event.stream]
  obtain ⟨told, closing, htold, hclosing, rfl⟩ := h.account
  rw [List.filter_append, List.filter_append, hdiverted htold, hremarks hclosing]
  unfold reportEvents
  rw [if_pos hjson]
  rfl

/-- In a dry run a call lists its command and counts as a success. -/
theorem listed_of_call? (hdry : s.dryRun) :
    ∀ e ∈ events, ∀ command ending, e.call? = some (command, ending) →
      (∃ stream, e = .listed stream command) ∧ ending = .success := by
  intro e he command ending hcall
  have hdeed := h.deed_of_call? e he command ending hcall
  unfold Runner.ofSettings at hdeed
  rw [if_pos hdry] at hdeed
  cases hdeed
  exact ⟨⟨_, rfl⟩, rfl⟩

/-- In a dry run every invocation that is recorded succeeded. -/
theorem ending_of_dryRun (hdry : s.dryRun) : ∀ i ∈ r.invocations, i.ending = .success := by
  intro i hi
  -- every invocation that is recorded was a call
  have hmem : (i.command, i.ending) ∈ callsOf events := by
    rw [h.callsOf_eq]
    exact List.mem_map_of_mem hi
  obtain ⟨e, he, hcall⟩ := List.mem_filterMap.mp hmem
  exact (h.listed_of_call? hdry e he i.command i.ending hcall).2

end Course

/-! ## Section 3: The report of a run -/

section Run

variable {σ : Type} (o : Outside σ)

/-- What is said for debugging before a sweep. -/
def debugEvents (env : Environment) (a : Arguments) : List Event :=
  if a.debug then
    [.wrote .error (bannerText o.build ++ ['\n']), .wrote .error ((a.summary env).toList ++ ['\n'])]
  else []

/-- The world in which a run starts to sweep. -/
def sweepStart (env : Environment) (a : Arguments) (start : σ) : World σ :=
  { outside := start, events := debugEvents o env a }

/-- The report to which the sweep of a run comes. -/
def sweepReport (env : Environment) (a : Arguments) (s : Settings) (start : σ) : Report :=
  ((sweepSettings o.system (Terminal.emits env o.isTerminal) s).run (sweepStart o env a start)).1.2

/-- Settings are swept with to the report of their sweep. -/
theorem course_runSettings (emits : Bool) (s : Settings) (w : World σ) :
    ∃ events, ((runSettings o.system emits s).run w).2.events = w.events ++ events ∧
      Course emits s ((sweepSettings o.system emits s).run w).1.2 events := by
  obtain ⟨told, htoldEvents, htold, hfollows⟩ := emits_sweepSettings o emits s w
  let swept := (sweepSettings o.system emits s).run w
  obtain ⟨report, hreportEvents, hwritten, rfl⟩ :=
    emits_writeReport o emits s swept.1.2 swept.2
  let written := (writeReport o.system emits s swept.1.2).run swept.2
  obtain ⟨closing, hclosingEvents, hclosing, _⟩ :=
    emits_judge o emits s swept.1.1 swept.1.2 written.2
  refine ⟨told ++ reportEvents emits s swept.1.2 ++ closing, ?_,
    ⟨hfollows, told, closing, htold, hclosing, rfl⟩⟩
  unfold runSettings
  rw [World.run_bind, World.run_bind, hwritten]
  show ((judge o.system emits s swept.1.1 swept.1.2).run written.2).2.events = _
  rw [hclosingEvents, hreportEvents, htoldEvents]
  simp only [List.append_assoc]

/-- What is said for debugging is said first, and the sweep starts after it. -/
theorem run_runArguments {env : Environment} {a : Arguments} {s : Settings}
    (hload : Settings.load a env = .ok s) (start : σ) :
    (runArguments o.system env a).run { outside := start } =
      (runSettings o.system (Terminal.emits env o.isTerminal) s).run
        (sweepStart o env a start) := by
  unfold runArguments sweepStart debugEvents
  simp only [hload]
  split <;> rfl

/-- A run with settings takes a course, and the report of this course is that of its sweep. -/
theorem course_run {words : List Word} {env : Environment} {a : Arguments} {s : Settings}
    (hread : Usage.read words = .ok a) (hload : Settings.load a env = .ok s) (start : σ) :
    Course (Terminal.emits env o.isTerminal) s (sweepReport o env a s start)
      ((run o.system words env).run { outside := start }).2.events := by
  obtain ⟨events, hevents, hcourse⟩ :=
    course_runSettings o (Terminal.emits env o.isTerminal) s (sweepStart o env a start)
  rw [← run_runArguments o hload] at hevents
  let ended := (runArguments o.system env a).run { outside := start }
  have hopening : Remarks (debugEvents o env a) := by
    unfold debugEvents
    split
    · exact (Remarks.single _).append (.single _)
    · exact .nil
  have hran := hcourse.remarks_append hopening
  unfold run
  simp only [hread]
  rw [World.run_bind]
  cases ended.1 with
  | ok u =>
    show Course _ _ _ ended.2.events
    rw [hevents]
    exact hran
  | error f =>
    -- the message of a failure comes last, on the other stream
    obtain ⟨closing, hclosingEvents, hclosing⟩ := emits_reportFailure o env a f ended.2
    show Course _ _ _ ((reportFailure o.system env a f).run ended.2).2.events
    rw [hclosingEvents, hevents]
    exact hran.append_remarks hclosing

/-- Whatever the children do, two flags of the settings decide what a run puts on the
    standard output. With a JSON report it is the text of the report of the sweep and a
    line break, which is one JSON text and is written at once, and nothing else appears
    there: the output of children and the list of commands are diverted, whatever the
    other flags are. In a dry run
    without one it is the command of every point, in order, each on a line. In any other
    run the program writes nothing there. In a dry run no child is launched and every
    invocation counts as a success. -/
theorem run_output {words : List Word} {env : Environment} {a : Arguments} {s : Settings}
    (hread : Usage.read words = .ok a) (hload : Settings.load a env = .ok s) (start : σ) :
    let events := ((run o.system words env).run { outside := start }).2.events
    let r := sweepReport o env a s start
    (r.invocations.map Invocation.point = s.points ∧
      callsOf events = r.invocations.map fun i => (i.command, i.ending)) ∧
    (∃ json, r.jsonText = .ok json ∧
      printedOn .output events =
        (if s.jsonReport then json.toList ++ ['\n']
        else if s.dryRun then asLines (s.points.map fun p => (s.toTemplate.render p).toList)
        else []) ∧
      (s.jsonReport →
        events.filter (fun e => e.stream = .output) = [.wrote .output (json.toList ++ ['\n'])] ∧
        ∃ v, Json.Value.parse (printedOn .output events) = .ok v)) ∧
    (s.dryRun →
      (∀ path stream command ending, Event.launched path stream command ending ∉ events) ∧
      ∀ i ∈ r.invocations, i.ending = .success) := by
  intro events r
  have hcourse : Course _ s r events := course_run o hread hload start
  refine ⟨⟨hcourse.map_point, hcourse.callsOf_eq⟩, ⟨_, r.jsonText_eq, ?_⟩,
    fun hdry => ⟨?_, hcourse.ending_of_dryRun hdry⟩⟩
  · rw [String.toList_ofList]
    refine ⟨hcourse.printedOn_output, fun hjson => ⟨hcourse.filter_output_of_json hjson, ?_⟩⟩
    rw [hcourse.printedOn_output, outputText, if_pos hjson]
    exact r.exists_parse_prettyText (by simp [Json.isSpace])
  · intro path stream command ending hlaunched
    obtain ⟨⟨stream', hlisted⟩, _⟩ :=
      hcourse.listed_of_call? hdry _ hlaunched command ending rfl
    cases hlisted

end Run

/-- A run with every flag that makes the program write more. -/
theorem run_output_talkative :
    let words := ["-1", "-1", "--json", "--dry-run", "--strict", "--debug", "--verbose",
      "--rate=0", "--distance=2.5"].map Word.ofString
    let env : Environment := fun _ => none
    let a : Arguments :=
      { firstRun := -1
        lastRun := -1
        rates := [.ofNat 0]
        distances := [.ofRatio false 5 2]
        dryRun := true
        strict := true
        json := true
        verbose := true
        debug := true }
    let o : Outside Unit :=
      { child := fun _ _ _ => pure (.terminated none)
        now := pure ⟨0, 0⟩
        clock := pure 0
        newSession := pure "00000000"
        isTerminal := true }
    let s := Settings.layered a env true
    let events := ((run o.system words env).run { outside := () }).2.events
    let r := sweepReport o env a s ()
    (Usage.read words = .ok a ∧ Settings.load a env = .ok s) ∧
    (∃ json, r.jsonText = .ok json ∧ printedOn .output events = json.toList ++ ['\n'] ∧
      events.filter (fun e => e.stream = .output) = [.wrote .output (json.toList ++ ['\n'])]) ∧
    (∃ v, Json.Value.parse (printedOn .output events) = .ok v) ∧
    (∀ i ∈ r.invocations, i.ending = .success) ∧
    printedOn .output events = asLines (
      ["\x7b",
       "  \"started_at\": \"1970-01-01T00:00:00Z\",",
       "  \"total_duration\": \x7b",
       "    \"secs\": 0,",
       "    \"nanos\": 0",
       "  \x7d,",
       "  \"outcomes\": [",
       "    \x7b",
       "      \"point\": \x7b",
       "        \"data_rate\": 0.0,",
       "        \"distance\": 2.5,",
       "        \"run\": -1",
       "      \x7d,",
       "      \"command\": \"./waf --run wave-udp-e2e --command-template=\\\"%s --RngRun=-1 " ++
         "--RngSeed=-1 --distance=2.5 --intPck=0\\\"\",",
       "      \"state\": \x7b",
       "        \"state\": \"success\"",
       "      \x7d,",
       "      \"duration\": \x7b",
       "        \"secs\": 0,",
       "        \"nanos\": 0",
       "      \x7d",
       "    \x7d",
       "  ]",
       "\x7d"].map String.toList) := by
  intro words env a o s events r
  have hread : Usage.read words = .ok a := by decide +kernel
  have hload : Settings.load a env = .ok s := by decide +kernel
  obtain ⟨_, ⟨json, hjson, hprinted, hone⟩, hdry⟩ := run_output o hread hload ()
  refine ⟨⟨hread, hload⟩, ⟨json, hjson, hprinted, (hone rfl).1⟩, (hone rfl).2, (hdry rfl).2, ?_⟩
  -- the text is that of the report, so the sweep is run and not what is around it
  obtain rfl := Except.ok.inj (r.jsonText_eq.symm.trans hjson)
  have hjsonReport : s.jsonReport = true := rfl
  rw [if_pos hjsonReport, String.toList_ofList] at hprinted
  rw [hprinted]
  simp only [List.map_cons, List.map_nil, String.toList_append, String.reduceToList]
  decide +kernel

end SimSweep.Program
