import SimSweep.Proofs.Program.Course
import SimSweep.Proofs.Settings.Refusal

/-! # The exit code of a run

    Main statement: what exit code a run ends with and what it has the runner do, from
    the words and the environment and, once a sweep is under way, from what the
    children answer. Early exits come before the first call of the runner, and the one
    late error, that of a strict sweep, comes after the last.
-/

namespace SimSweep.Program

variable {emits : Bool}

/-- Writing the report calls nothing. -/
theorem callsOf_reportEvents (emits : Bool) (s : Settings) (r : Report) :
    callsOf (reportEvents emits s r) = [] := by
  unfold reportEvents
  split
  · rfl
  · split <;> rfl

/-- The calls of a course are those of its record. -/
theorem Course.callsOf_eq {s : Settings} {r : Report} {events : List Event}
    (h : Course emits s r events) :
    callsOf events = r.invocations.map fun i => (i.command, i.ending) := by
  obtain ⟨told, closing, htold, hclosing, rfl⟩ := h.account
  rw [callsOf_append, callsOf_append, htold.callsOf_eq, callsOf_reportEvents,
    hclosing.callsOf_eq_nil]
  simp only [List.append_nil]

/-- Every call of a course is a deed of the runner of its settings. -/
theorem Course.deed_of_call? {s : Settings} {r : Report} {events : List Event}
    (h : Course emits s r events) :
    ∀ e ∈ events, ∀ command ending, e.call? = some (command, ending) →
      Deed (.ofSettings s) command ending e := by
  intro e he command ending hcall
  obtain ⟨told, closing, htold, hclosing, rfl⟩ := h.account
  -- a call is neither in the report nor in what is said after it
  have hreport := callsOf_eq_nil_iff.mp (callsOf_reportEvents emits s r)
  have hafter := callsOf_eq_nil_iff.mp hclosing.callsOf_eq_nil
  simp only [List.mem_append] at he
  rcases he with (he | he) | he
  · exact htold.deed_of_call? e he command ending hcall
  · cases (hreport e he).symm.trans hcall
  · cases (hafter e he).symm.trans hcall

/-- The commands of a course are those of the plan. -/
theorem Course.map_fst_callsOf {s : Settings} {r : Report} {events : List Event}
    (h : Course emits s r events) :
    (callsOf events).map Prod.fst = s.points.map s.toTemplate.render := by
  have hpoints : r.invocations.map Invocation.point = s.points := by
    simpa using h.follows.points
  calc (callsOf events).map Prod.fst
      = r.invocations.map Invocation.command := by rw [h.callsOf_eq, List.map_map]; rfl
    _ = (r.invocations.map Invocation.point).map s.toTemplate.render := h.follows.commands
    _ = s.points.map s.toTemplate.render := by rw [hpoints]

/-- A course is judged by the answers of its calls if it is strict, and else not at all. -/
theorem Course.exitCodeOf_judged {s : Settings} {r : Report} {events : List Event}
    (h : Course emits s r events) :
    exitCodeOf (judged s r) =
      if s.strict then strictCode ((callsOf events).map Prod.snd) else 0 := by
  have hendings : (callsOf events).map Prod.snd = r.invocations.map Invocation.ending := by
    rw [h.callsOf_eq, List.map_map]
    rfl
  unfold judged
  by_cases hstrict : s.strict
  · rw [if_pos hstrict, if_pos hstrict, r.exitCodeOf_verdict, hendings]
  · rw [if_neg hstrict, if_neg hstrict]
    rfl

/-- The code of a course comes from its verdict, so it is not that of an internal failure. -/
theorem Course.exitCodeOf_judged_ne {s : Settings} {r : Report} {events : List Event}
    (h : Course emits s r events) : exitCodeOf (judged s r) ≠ Failure.exitCode (.internal "") := by
  rw [h.exitCodeOf_judged]
  unfold strictCode
  repeat' split
  all_goals decide

/-- No run ends with the code of an internal failure. -/
theorem Finished.code_ne {build : Build} {env : Environment} {words : List Word} {code : Nat}
    {events : List Event} (h : Finished emits build env words code events) : code ≠ 99 := by
  cases h with
  | @stopped reason _ _ hread hstopped =>
    cases reason <;>
    · obtain ⟨rfl, _⟩ := hstopped
      decide
  | ran hread hran hcode =>
    subst hcode
    cases hran with
    | refused hload hremarks =>
      have hone : Failure.exitCode _ = 1 := Settings.load_refuses _ _ _ hload
      show Failure.exitCode _ ≠ 99
      rw [hone]
      decide
    | swept hload hcourse => exact hcourse.exitCodeOf_judged_ne

/-- Every run ends in one of these ways. Words that cannot be read end it with 2, and
    requests for information with 0; settings that cannot be had end it with 1. None of
    these runs calls the runner, and what they write to the standard output is the
    information that was asked for. In every other run the runner of the settings, and no
    other, is handed the commands of the plan, in order and to the end, whatever it
    answers and whatever else the words say; the exit code is then 0 unless the sweep is
    strict, and if it is strict the endings decide. No run ends with the code of an
    internal failure. -/
theorem run_calls_and_code {σ : Type} (o : Outside σ) (words : List Word)
    (env : Environment) (start : σ) :
    let ended := (run o.system words env).run { outside := start }
    let code := ended.1
    let events := ended.2.events
    code ≠ 99 ∧
    match Usage.read words with
    | .error (.fault f) => code = 2 ∧ events = [.wrote .error (o.build.faultText f).toList]
    | .error (.help long) => code = 0 ∧ events = [.wrote .output (Usage.help long).toList]
    | .error .version => code = 0 ∧ events = [.wrote .output Usage.version.toList]
    | .ok a =>
      match Settings.load a env with
      | .error _ => code = 1 ∧ callsOf events = [] ∧ printedOn .output events = []
      | .ok s =>
        (∀ e ∈ events, ∀ command ending, e.call? = some (command, ending) →
          Deed (.ofSettings s) command ending e) ∧
        (callsOf events).map Prod.fst = s.points.map s.toTemplate.render ∧
        code = if a.strict then strictCode ((callsOf events).map Prod.snd) else 0 := by
  intro ended code events
  obtain ⟨events', hevents, hfinished⟩ := emits_run o words env { outside := start }
  have hsame : events = events' := hevents
  rw [← hsame] at hfinished
  refine ⟨hfinished.code_ne, ?_⟩
  -- the way that was taken decides both matches
  cases hfinished with
  | @stopped reason _ _ hread hstopped =>
    rw [hread]
    cases reason <;> exact hstopped
  | ran hread hran hcode =>
    rw [hread]
    cases hran with
    | refused hload hremarks =>
      have hone := hcode.trans (Settings.load_refuses _ _ _ hload)
      simp only [hload]
      exact ⟨hone, hremarks.callsOf_eq_nil, hremarks.printedOn_output⟩
    | swept hload hcourse =>
      have hjudged := hcode.trans hcourse.exitCodeOf_judged
      rw [Settings.strict_of_load hload] at hjudged
      simp only [hload]
      exact ⟨hcourse.deed_of_call?, hcourse.map_fst_callsOf, hjudged⟩

end SimSweep.Program
