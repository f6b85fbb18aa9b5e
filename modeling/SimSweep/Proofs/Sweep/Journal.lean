import Mathlib.Data.List.Forall2
import Mathlib.Tactic.Ring
import SimSweep.Proofs.Command.Line
import SimSweep.Proofs.Log.Entry
import SimSweep.Proofs.Plan.Points
import SimSweep.Proofs.Program.World
import SimSweep.Proofs.Report.Verdict
import SimSweep.Proofs.Sweep.Loop

/-! # The journal of a sweep

    What a sweep logs is a list of remarks that its report determines up to the times at
    which they are made: one at the start, two on each invocation, one at the end. Main
    statement: the logger writes the entries of these remarks, in this order, as far as
    their levels reach its threshold, and how many that is.
-/

namespace SimSweep

open Log (Entry Level Logger Remark)
open Program (Emits Event Outside World printedOn)

/-! ## Section 1: The remarks of a sweep -/

namespace Log.Progress

@[simp] theorem numberText_eq_toString (n : Nat) : numberText n = toString n := by
  rw [← String.toList_inj, numberText, String.toList_ofList]
  exact Nat.toList_repr.symm

/-- How a run is named in a remark. -/
@[simp] theorem ofList_runText (run : Int64) :
    String.ofList (runText run) = toString run.toInt := by
  rw [← String.toList_inj, String.toList_ofList, toList_toString_int, runText]

/-- The remarks on one invocation. -/
def round (total index : Nat) (i : Invocation) : List Remark :=
  [invocationStart index total i.point i.command, invocationEnd index total i]

/-- The remarks on some invocations, the first of which has an index. -/
def rounds (total index : Nat) (done : List Invocation) : List Remark :=
  (done.zipIdx index).flatMap fun (i, k) => round total k i

@[simp] theorem rounds_cons (total index : Nat) (i : Invocation) (rest : List Invocation) :
    rounds total index (i :: rest) = round total index i ++ rounds total (index + 1) rest := by
  unfold rounds
  rw [List.zipIdx_cons, List.flatMap_cons]

/-- The remarks on a whole sweep. -/
def journal (plan : Plan) (t : Template) (runner : String) (r : Report) : List Remark :=
  start plan t runner :: rounds plan.count 1 r.invocations ++ [summary r]

end Log.Progress

/-- An event that is a remark, written at some time through a logger. -/
def Log.Logger.Wrote (logger : Logger) (emits : Bool) (remark : Remark) (event : Event) : Prop :=
  ∃ time, event = .wrote .error (logger.write emits time remark)

section Stage

variable {σ : Type} (o : Outside σ) (emits : Bool) (logger : Logger) (runnerName : String)
  (runner : String → StateM σ Ending)

/-- A stage with any runner on which everything is logged through any logger. -/
def Program.Outside.loggedStage : Stage (StateM (World σ)) where
  runnerName := runnerName
  run command := World.ask (runner command)
  now := o.system.now
  clock := o.system.clock
  log := Program.log o.system emits logger

theorem emits_remark (remark : Remark) :
    Emits (Program.log o.system emits logger remark) fun _ events =>
      List.Forall₂ (logger.Wrote emits) [remark] events := by
  refine .bind (.ask o.now) fun time before hbefore => ?_
  subst hbefore
  refine (Emits.note _).mono fun _ events h => ?_
  subst h
  exact .cons ⟨time, rfl⟩ .nil

/-- One round: the first remark is made before the command is run, the second after. -/
theorem emits_invoke (t : Template) (total index : Nat) (p : Point) :
    Emits ((o.loggedStage emits logger runnerName runner).invoke t total index p)
      fun i events =>
        List.Forall₂ (logger.Wrote emits) (Log.Progress.round total index i) events := by
  unfold Stage.invoke
  refine .bind (emits_remark o emits logger _) fun _ first hfirst => ?_
  refine .bind (.ask o.clock) fun began before hbefore => ?_
  subst hbefore
  refine .bind (.ask (runner _)) fun ending before hbefore => ?_
  subst hbefore
  refine .bind (.ask o.clock) fun ended before hbefore => ?_
  subst hbefore
  refine .bind (emits_remark o emits logger _) fun _ second hsecond => .pure ?_
  simp only [List.nil_append, List.append_nil]
  exact List.rel_append hfirst hsecond

/-- The loop adds a round for each point. Induction on the points that are left. -/
theorem emits_invokeAll (t : Template) (total : Nat) :
    ∀ (points : List Point) (index : Nat) (r : Report),
      Emits ((o.loggedStage emits logger runnerName runner).invokeAll t total index points r)
        fun r' events => ∃ added, r'.invocations = r.invocations ++ added ∧
          List.Forall₂ (logger.Wrote emits) (Log.Progress.rounds total index added) events := by
  intro points
  induction points with
  | nil =>
    intro index r
    exact .pure ⟨[], (List.append_nil _).symm, .nil⟩
  | cons p rest ih =>
    intro index r
    refine .bind (emits_invoke o emits logger runnerName runner t total index p)
      fun i first hfirst => ?_
    refine (ih (index + 1) (r.record i)).mono fun r' events h => ?_
    obtain ⟨added, hadded, hrest⟩ := h
    refine ⟨i :: added, ?_, ?_⟩
    · rw [hadded]
      simp [Report.record]
    · rw [Log.Progress.rounds_cons]
      exact List.rel_append hfirst hrest

/-- A sweep writes the remarks of its journal and nothing else. -/
theorem emits_journal (t : Template) (plan : Plan) :
    Emits ((o.loggedStage emits logger runnerName runner).sweep t plan) fun r events =>
      List.Forall₂ (logger.Wrote emits) (Log.Progress.journal plan t runnerName r) events := by
  unfold Stage.sweep
  refine .bind (.ask o.now) fun startedAt before hbefore => ?_
  subst hbefore
  refine .bind (.ask o.clock) fun began before hbefore => ?_
  subst hbefore
  refine .bind (emits_remark o emits logger _) fun _ first hfirst => ?_
  refine .bind (emits_invokeAll o emits logger runnerName runner t plan.count plan.points 1 _)
    fun r rounds hrounds => ?_
  obtain ⟨added, hadded, hrounds⟩ := hrounds
  refine .bind (.ask o.clock) fun ended before hbefore => ?_
  subst hbefore
  refine .bind (emits_remark o emits logger _) fun _ last hlast => .pure ?_
  have hinvocations : r.invocations = added := hadded
  subst hinvocations
  simp only [List.nil_append, List.append_nil]
  exact List.rel_append hfirst (List.rel_append hrounds hlast)

end Stage

/-! ## Section 2: From remarks to entries -/

/-- The lines of some entries, as far as a logger admits them. -/
def Log.Logger.linesOf (logger : Logger) (emits : Bool) (entries : List Entry) : List Char :=
  (entries.filter fun e => logger.admits e.level).flatMap fun e =>
    logger.lineText emits e ++ ['\n']

/-- An entry that a remark makes at some time. -/
def Log.Logger.Makes (logger : Logger) (remark : Remark) (e : Entry) : Prop :=
  ∃ time, e = logger.entry remark time

/-- Remarks that were written are entries whose lines were written. -/
theorem exists_entries_of_wrote {logger : Logger} {emits : Bool} {remarks : List Remark}
    {events : List Event} (h : List.Forall₂ (logger.Wrote emits) remarks events) :
    ∃ entries, List.Forall₂ logger.Makes remarks entries ∧
      printedOn .error events = logger.linesOf emits entries := by
  induction h with
  | nil => exact ⟨[], .nil, rfl⟩
  | @cons remark event remarks events hwrote _ ih =>
    obtain ⟨time, rfl⟩ := hwrote
    obtain ⟨entries, hmakes, hprinted⟩ := ih
    refine ⟨logger.entry remark time :: entries, .cons ⟨time, rfl⟩ hmakes, ?_⟩
    show logger.write emits time remark ++ printedOn .error events = _
    have hlevel := (logger.entry_level_message remark time).1
    unfold Log.Logger.write Log.Logger.linesOf
    rw [hprinted, List.filter_cons, hlevel]
    split
    · rw [List.flatMap_cons]
      rfl
    · rfl

/-- Entries have the levels and messages of the remarks that make them. -/
theorem map_level_message_of_makes {logger : Logger} {remarks : List Remark}
    {entries : List Entry} (h : List.Forall₂ logger.Makes remarks entries) :
    entries.map (fun e => (e.level, e.message)) =
      remarks.map fun remark => (remark.level, remark.message) := by
  induction h with
  | nil => rfl
  | cons hmakes _ ih =>
    obtain ⟨time, rfl⟩ := hmakes
    obtain ⟨hlevel, hmessage⟩ := Log.Logger.entry_level_message _ _ time
    rw [List.map_cons, List.map_cons, hlevel, hmessage, ih]

/-- The counts stand in the entry of the summary, also where a session is added. -/
theorem lookup_summary {logger : Logger} {r : Report} {e : Entry}
    (h : logger.Makes (Log.Progress.summary r) e) :
    e.fields.lookup "total" = some (.ofNat r.total) ∧
      e.fields.lookup "succeeded" = some (.ofNat r.succeeded) ∧
      e.fields.lookup "failed" = some (.ofNat r.failed) := by
  obtain ⟨time, rfl⟩ := h
  unfold Log.Logger.entry
  rw [logger.lookup_inscribe (by decide), logger.lookup_inscribe (by decide),
    logger.lookup_inscribe (by decide)]
  exact ⟨rfl, rfl, rfl⟩

/-- The levels and the messages of one round, word by word. -/
theorem map_level_message_round (total index : Nat) (i : Invocation) :
    (Log.Progress.round total index i).map (fun remark => (remark.level, remark.message)) =
      [(.info, "[" ++ toString index ++ "/" ++ toString total ++ "] " ++ i.command),
       (if i.isSuccess then .debug else .warn,
        "[" ++ toString index ++ "/" ++ toString total ++ "] " ++ "run " ++
          toString i.point.run.toInt ++ " finished: " ++ i.ending.label ++
          " in " ++ String.ofList i.duration.text)] := by
  rw [← Log.Progress.numberText_eq_toString, ← Log.Progress.numberText_eq_toString,
    ← Log.Progress.ofList_runText]
  rfl

/-- A sweep that has nothing to launch says so, and no other sweep does. -/
theorem message_start_eq_iff {plan : Plan} (h : plan.size ≤ countLimit) (t : Template)
    (runner : String) :
    (Log.Progress.start plan t runner).message = "Sweep is empty, nothing to launch" ↔
      plan.size = 0 := by
  unfold Log.Progress.start Plan.isEmpty
  rw [Plan.count_eq_size h]
  split
  · next hzero => simpa using hzero
  · next hzero =>
    constructor
    · intro hmessage
      have htext := congrArg (fun s => s.toList.take 2) hmessage
      simp at htext
    · intro hsize
      exact absurd hsize (by simpa using hzero)

/-! ## Section 3: How many entries are written -/

/-- Each round has an entry that is always of the same level and one whose level depends on
    the ending. -/
theorem countP_round (admits : Level → Bool) (total index : Nat) (i : Invocation) :
    (Log.Progress.round total index i).countP (fun remark => admits remark.level) =
      (admits .info).toNat + (admits (if i.isSuccess then .debug else .warn)).toNat := by
  have htoNat : ∀ b : Bool, (if b then 1 else 0) = b.toNat := by
    rintro (_ | _) <;> rfl
  unfold Log.Progress.round
  rw [List.countP_cons, List.countP_singleton, htoNat, htoNat, Nat.add_comm]
  rfl

/-- The rounds of a record, by its successes and its failures. Induction on the record. -/
theorem countP_rounds (admits : Level → Bool) (total : Nat) :
    ∀ (done : List Invocation) (index : Nat),
      (Log.Progress.rounds total index done).countP (fun remark => admits remark.level) =
        done.length * (admits .info).toNat +
          done.countP Invocation.isSuccess * (admits .debug).toNat +
          done.countP (fun i => !i.isSuccess) * (admits .warn).toNat := by
  intro done
  induction done with
  | nil =>
    intro index
    simp [Log.Progress.rounds]
  | cons i rest ih =>
    intro index
    rw [Log.Progress.rounds_cons, List.countP_append, countP_round, ih, List.length_cons,
      List.countP_cons, List.countP_cons]
    cases i.isSuccess with
    | true =>
      simp only [if_true, Bool.not_true, Bool.false_eq_true, if_false]
      ring
    | false =>
      simp only [if_true, Bool.not_false, Bool.false_eq_true, if_false]
      ring

theorem level_start (plan : Plan) (t : Template) (runner : String) :
    (Log.Progress.start plan t runner).level = .info := by
  unfold Log.Progress.start
  split <;> rfl

/-- The invocations that did not succeed are those that the report counts as failed. -/
theorem countP_not_isSuccess (r : Report) :
    r.invocations.countP (fun i => !i.isSuccess) = r.failed := by
  have hcount := List.length_eq_countP_add_countP Invocation.isSuccess (l := r.invocations)
  simp only [Bool.not_eq_true, Bool.decide_eq_false] at hcount
  unfold Report.failed Report.total Report.succeeded
  omega

/-- How many remarks of a journal reach a threshold. -/
theorem countP_journal (logger : Logger) (plan : Plan) (t : Template) (runner : String)
    (r : Report) :
    (Log.Progress.journal plan t runner r).countP (fun remark => logger.admits remark.level) =
      match logger.threshold with
      | .debug => 2 * r.total + 2
      | .info => r.total + r.failed + 2
      | .warn => r.failed + if 0 < r.failed then 1 else 0 := by
  have hsplit : r.succeeded + r.failed = r.total :=
    Nat.add_sub_cancel' r.succeeded_le_total
  have hsummary : (Log.Progress.summary r).level = if 0 < r.failed then .warn else .info := rfl
  have hrounds := countP_rounds logger.admits plan.count r.invocations 1
  rw [countP_not_isSuccess] at hrounds
  change _ = r.total * _ + r.succeeded * _ + _ at hrounds
  unfold Log.Progress.journal
  rw [List.cons_append, List.countP_cons, List.countP_append, List.countP_singleton, hrounds,
    level_start, hsummary]
  -- the threshold decides which of the levels count
  unfold Log.Logger.admits
  cases logger.threshold with
  | debug =>
    have hall : ∀ level : Level, decide (Level.debug.rank ≤ level.rank) = true := by
      rintro (_ | _ | _) <;> rfl
    simp only [hall, Bool.toNat_true, Nat.mul_one, if_true]
    omega
  | info =>
    have hinfo : decide (Level.info.rank ≤ Level.info.rank) = true := rfl
    have hdebug : decide (Level.info.rank ≤ Level.debug.rank) = false := rfl
    have hwarn : decide (Level.info.rank ≤ Level.warn.rank) = true := rfl
    have hlast : decide (Level.info.rank ≤
        (if 0 < r.failed then Level.warn else Level.info).rank) = true := by
      split <;> rfl
    simp only [hinfo, hdebug, hwarn, hlast, Bool.toNat_true, Bool.toNat_false, Nat.mul_one,
      Nat.mul_zero, if_true]
    omega
  | warn =>
    have hinfo : decide (Level.warn.rank ≤ Level.info.rank) = false := rfl
    have hdebug : decide (Level.warn.rank ≤ Level.debug.rank) = false := rfl
    have hwarn : decide (Level.warn.rank ≤ Level.warn.rank) = true := rfl
    have hlast : decide (Level.warn.rank ≤
        (if 0 < r.failed then Level.warn else Level.info).rank) = decide (0 < r.failed) := by
      split
      · next h => rw [hwarn, decide_eq_true h]
      · next h => rw [hinfo, decide_eq_false h]
    simp only [hinfo, hdebug, hwarn, hlast, Bool.toNat_true, Bool.toNat_false, Nat.mul_one,
      Nat.mul_zero, Bool.false_eq_true, if_false, decide_eq_true_eq]
    omega

/-! ## Section 4: The statement -/

/-- A list that is related to two lists one after the other falls into two parts. -/
theorem exists_append_of_forall₂ {α β : Type} {R : α → β → Prop} {xs ys : List α} {zs : List β}
    (h : List.Forall₂ R (xs ++ ys) zs) :
    ∃ front back, zs = front ++ back ∧ List.Forall₂ R xs front ∧ List.Forall₂ R ys back := by
  refine ⟨zs.take xs.length, zs.drop xs.length, (List.take_append_drop _ _).symm, ?_, ?_⟩
  · simpa using List.forall₂_take xs.length h
  · simpa using List.forall₂_drop xs.length h

/-- Whatever runs the commands, and whatever logger is used: a sweep over a number of points
    that fits 64 bits writes to the standard error stream the lines of the entries of its
    journal that reach the threshold of the logger, in order, and nothing else. The first
    entry says that there is nothing to launch exactly if this is so. For each point two
    entries follow, one with its command and one with its ending, which is a warning unless
    the invocation succeeded. The last entry holds the counts of the report and is a warning
    if one of them is of failures. So the numbers of points and of failures say how many
    entries are written at each threshold. -/
theorem sweep_journal {σ : Type} (o : Outside σ) (emits : Bool) (logger : Logger)
    (runnerName : String) (runner : String → StateM σ Ending) (t : Template) (plan : Plan)
    (hsize : plan.size ≤ countLimit) (start : σ) :
    let ended :=
      ((o.loggedStage emits logger runnerName runner).sweep t plan).run { outside := start }
    let r := ended.1
    let failures := r.invocations.countP fun i => !i.isSuccess
    let label : Ending → String := fun
      | .success => "ok"
      | .failed code => "exit " ++ toString code.toInt
      | .terminated (some signal) => "signal " ++ toString signal.toInt
      | .terminated none => "terminated"
      | .notStarted _ => "launch failed"
    (r.invocations.map Invocation.point = plan.points ∧
      r.invocations.map Invocation.command = plan.points.map t.render) ∧
    ∃ (opening : Entry) (rounds : List Entry) (summary : Entry),
      let written :=
        (opening :: rounds ++ [summary]).filter fun e => logger.admits e.level
      printedOn .error ended.2.events =
        written.flatMap (fun e => logger.lineText emits e ++ ['\n']) ∧
      (opening.level = .info ∧
        (opening.message = "Sweep is empty, nothing to launch" ↔ plan.size = 0)) ∧
      rounds.map (fun e => (e.level, e.message)) =
        (r.invocations.zipIdx 1).flatMap (fun (i, k) =>
          [(.info, "[" ++ toString k ++ "/" ++ toString plan.size ++ "] " ++ i.command),
           (if i.isSuccess then .debug else .warn,
            "[" ++ toString k ++ "/" ++ toString plan.size ++ "] " ++ "run " ++
              toString i.point.run.toInt ++ " finished: " ++ label i.ending ++
              " in " ++ String.ofList i.duration.text)]) ∧
      (summary.level = (if 0 < failures then .warn else .info) ∧
        summary.fields.lookup "total" = some (.ofNat r.total) ∧
        summary.fields.lookup "succeeded" = some (.ofNat r.succeeded) ∧
        summary.fields.lookup "failed" = some (.ofNat r.failed)) ∧
      written.length =
        match logger.threshold with
        | .debug => 2 * plan.size + 2
        | .info => plan.size + failures + 2
        | .warn => failures + if 0 < failures then 1 else 0 := by
  intro ended r failures label
  have hpoints := (o.loggedStage emits logger runnerName runner).map_point_sweep t plan
    { outside := start }
  have hcommands := (o.loggedStage emits logger runnerName runner).map_command_sweep t plan
    { outside := start }
  have htotal : r.total = plan.size := by
    rw [← plan.length_points, ← hpoints, List.length_map]
    rfl
  obtain ⟨events, hevents, hwrote⟩ :=
    emits_journal o emits logger runnerName runner t plan { outside := start }
  obtain ⟨entries, hmakes, hprinted⟩ := exists_entries_of_wrote hwrote
  rw [← show ended.2.events = events from hevents] at hprinted
  -- the entries fall into those of the three parts of the journal
  obtain ⟨front, back, rfl, hfront, hback⟩ := exists_append_of_forall₂ hmakes
  obtain ⟨opening, rounds, hopening, hrounds, rfl⟩ := List.forall₂_cons_left_iff.mp hfront
  obtain ⟨summary, none, hsummary, hnone, rfl⟩ := List.forall₂_cons_left_iff.mp hback
  obtain rfl : none = [] := by
    cases hnone
    rfl
  have hfailures : failures = r.failed := countP_not_isSuccess r
  refine ⟨⟨hpoints, hcommands⟩, opening, rounds, summary, hprinted, ?_, ?_, ?_, ?_⟩
  · obtain ⟨time, rfl⟩ := hopening
    obtain ⟨hlevel, hmessage⟩ :=
      logger.entry_level_message (Log.Progress.start plan t runnerName) time
    rw [hlevel, hmessage]
    exact ⟨level_start plan t runnerName, message_start_eq_iff hsize t runnerName⟩
  · rw [map_level_message_of_makes hrounds, ← Plan.count_eq_size hsize]
    have hlabel : Ending.label = label := by
      funext ending
      match ending with
      | .success | .failed _ | .terminated (some _) | .terminated none | .notStarted _ => rfl
    unfold Log.Progress.rounds
    rw [List.map_flatMap, ← hlabel]
    refine congrArg (List.flatMap · _) (funext fun (i, k) => ?_)
    exact map_level_message_round plan.count k i
  · have hcounts := lookup_summary hsummary
    obtain ⟨time, rfl⟩ := hsummary
    rw [(logger.entry_level_message (Log.Progress.summary r) time).1, hfailures]
    exact ⟨rfl, hcounts⟩
  · have hlevels := congrArg (List.countP fun m => logger.admits m.1)
      (map_level_message_of_makes hmakes)
    rw [List.countP_map, List.countP_map] at hlevels
    rw [← List.countP_eq_length_filter, hfailures, ← htotal]
    exact hlevels.trans (countP_journal logger plan t runnerName r)

/-- A failure and a success in a session of which the details are not logged: five lines of
    the six that there are. -/
theorem sweep_journal_failing :
    let plan : Plan :=
      { rates := [.ofNat 800000], distances := [.ofRatio false 1 2], firstRun := -1, lastRun := 0 }
    let t : Template := { launcher := "./waf", scenario := "wave", program := "%s" }
    let logger : Logger :=
      { name := "SWEEP"
        threshold := .info
        colors := true
        showsLocation := false
        writesJson := true
        session := some "00000000" }
    let o : Outside Nat :=
      { child := fun _ _ _ => pure .success
        now := pure ⟨0, 0⟩
        clock := pure 0
        newSession := pure ""
        isTerminal := false }
    let runner : String → StateM Nat Ending := fun _ n =>
      (if n = 0 then .failed 3 else .success, n + 1)
    let events :=
      (((o.loggedStage true logger "stub" runner).sweep t plan).run { outside := 0 }).2.events
    let line : String → String → String → String := fun level message fields =>
      "\x7b\"timestamp\":\"1970-01-01T00:00:00Z\",\"level\":\"" ++ level ++ "\",\"message\":\"" ++
        message ++ "\",\"logger\":\"SWEEP\",\"fields\":\x7b" ++ fields ++
        "\x7d,\"location\":null\x7d\n"
    plan.size ≤ countLimit ∧
    (∃ written : List Entry, written.length = 5 ∧ (∀ e ∈ written, e.level ≠ .debug) ∧
      printedOn .error events = written.flatMap fun e => logger.lineText true e ++ ['\n']) ∧
    printedOn .error events =
      (line "Info" "Starting sweep: 1 data rates x 1 distances x 2 runs = 2 invocations"
          ("\"launcher\":\"./waf\",\"runner\":\"stub\",\"scenario\":\"wave\"," ++
            "\"session_id\":\"00000000\"") ++
        line "Info" ("[1/2] ./waf --run wave --command-template=\\\"%s --RngRun=-1 --RngSeed=-1 " ++
            "--distance=0.5 --intPck=800000\\\"")
          ("\"data_rate\":800000.0,\"distance\":0.5,\"run\":-1,\"seed\":-1," ++
            "\"session_id\":\"00000000\"") ++
        line "Warn" "[1/2] run -1 finished: exit 3 in 0.000s"
          ("\"data_rate\":800000.0,\"distance\":0.5,\"duration_ms\":0.0,\"run\":-1," ++
            "\"seed\":-1,\"session_id\":\"00000000\"," ++
            "\"state\":\x7b\"code\":3,\"state\":\"failed\"\x7d") ++
        line "Info" ("[2/2] ./waf --run wave --command-template=\\\"%s --RngRun=0 --RngSeed=0 " ++
            "--distance=0.5 --intPck=800000\\\"")
          ("\"data_rate\":800000.0,\"distance\":0.5,\"run\":0,\"seed\":0," ++
            "\"session_id\":\"00000000\"") ++
        line "Warn" "Sweep finished: 2 invocations, 1 succeeded, 1 failed in 0.000s"
          "\"failed\":1,\"session_id\":\"00000000\",\"succeeded\":1,\"total\":2").toList := by
  intro plan t logger o runner events line
  have hsize : plan.size ≤ countLimit := by decide
  have hfailures :
      (((o.loggedStage true logger "stub" runner).sweep t plan).run
        { outside := 0 }).1.invocations.countP (fun i => !i.isSuccess) = 1 := by
    decide +kernel
  obtain ⟨_, opening, rounds, summary, hprinted, _, _, _, hlength⟩ :=
    sweep_journal o true logger "stub" runner t plan hsize 0
  refine ⟨hsize, ⟨_, ?_, ?_, hprinted⟩, ?_⟩
  · rw [hlength, hfailures]
    rfl
  · intro e he hdebug
    have hadmits := (List.mem_filter.mp he).2
    simp [hdebug, logger, Logger.admits, Level.rank] at hadmits
  · simp only [line, String.toList_append, String.reduceToList]
    decide +kernel

end SimSweep
