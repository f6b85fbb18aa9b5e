import SimSweep.Proofs.Arguments.Switches
import SimSweep.Proofs.Program.Account
import SimSweep.Proofs.Program.Quotes
import SimSweep.Proofs.Terminal.Coloring

/-! # Colors that are asked for and colors that are refused

    Two switches decide on the colors of a run, before the environment does. Main statement:
    what comes of them in the report, in the line of a failure and in the entries of the log
    (`run_colors`).

    With the one switch the report and the failure are rendered in color, but whether escape
    sequences are emitted is decided apart from that, by the environment and the terminal. So
    the switch does not force colors. With the other switch there are no colors: the report,
    the tag of a failure and the tags of levels hold no escape character, and the message of
    a failure only those of the strings that it quotes.
-/

namespace SimSweep

open Terminal (escape paint)

/-! ## Section 1: Renderings -/

/-- Painting in a style starts with an escape character. -/
theorem Terminal.exists_paint_eq_cons {s : Style} (h : ¬ s.isPlain) (t : List Char) :
    ∃ after, paint true s t = escape :: after := by
  unfold paint
  exact ⟨_, if_pos ⟨rfl, h⟩⟩

section Renderings

variable (r : Report) (f : Failure) (listsAll : Bool)

/-- The plain view of a report has no escape characters. -/
theorem Report.escape_notMem_plain : escape ∉ r.display (.plain listsAll) :=
  (r.dressed_display (View.colored_dresses_plain {} true listsAll)).escape_notMem

/-- The heading of the colored view is painted. -/
theorem Report.escape_mem_colored : escape ∈ r.display (.colored {} true listsAll) := by
  have hheading : escape ∈ View.Colored.heading {} true "WAVE Sweep Results".toList := by
    obtain ⟨after, hafter⟩ := Terminal.exists_paint_eq_cons (s := .boldColored .cyan) (by decide)
      "WAVE Sweep Results".toList
    refine List.mem_append_left _ ?_
    rw [hafter]
    exact List.mem_cons_self
  unfold Report.display
  simp only [List.append_assoc]
  exact List.mem_append_left _ hheading

/-- A report with colors differs from one without exactly if escape sequences are emitted. -/
theorem Report.displayText_ne_iff (emits : Bool) :
    r.displayText ⟨true, listsAll⟩ emits ≠ r.displayText ⟨false, listsAll⟩ emits ↔
      emits = true := by
  unfold Report.displayText
  rw [ne_eq, String.ofList_inj]
  show ¬ r.display (.colored {} emits listsAll) = r.display (.plain listsAll) ↔ _
  cases emits with
  | true =>
    refine iff_of_true (fun heq => r.escape_notMem_plain listsAll ?_) rfl
    rw [← heq]
    exact r.escape_mem_colored listsAll
  | false =>
    rw [View.colored_false]
    exact iff_of_false (fun hne => hne rfl) Bool.false_ne_true

/-- So does the line of a failure: with colors its second character starts a sequence, and
    without it is a letter. -/
theorem Failure.consoleText_ne_iff (emits : Bool) :
    f.consoleText emits true ≠ f.consoleText emits false ↔ emits = true := by
  cases emits with
  | true =>
    refine iff_of_true (fun heq => ?_) rfl
    have hlists := congrArg String.toList heq
    rw [f.toList_consoleText, f.toList_consoleText] at hlists
    obtain ⟨c, rest, htag⟩ : ∃ c rest, f.category.toList = c :: rest :=
      List.exists_cons_of_ne_nil (by cases f <;> simp [Failure.category])
    obtain ⟨after, hafter⟩ := Terminal.exists_paint_eq_cons (s := .boldColored f.color)
      (by simp [Style.isPlain, Style.boldColored]) f.category.toList
    rw [Bool.and_self, hafter, Bool.and_false, Terminal.paint_false, htag] at hlists
    have hescape : escape = c := (List.cons.inj (List.cons.inj hlists).2).1
    exact f.escape_notMem_category (by rw [htag, hescape]; exact List.mem_cons_self)
  | false => exact iff_of_false (fun hne => hne rfl) Bool.false_ne_true

end Renderings

/-- A logger without colors does not paint the tag of a level. -/
theorem Log.Logger.escape_notMem_tagText {logger : Log.Logger} (h : logger.colors = false)
    (emits : Bool) (level : Log.Level) : escape ∉ (logger.tagText level).paint emits := by
  unfold Log.Logger.tagText StyledText.paint
  rw [h, List.flatMap_singleton]
  show escape ∉ paint emits .plain _
  rw [Terminal.paint_plain]
  exact Log.Logger.escape_notMem_tag level

/-! ## Section 2: Runs -/

namespace Program

open Terminal (EscapesOnlyIn)

/-- How a run ends is shown with escape sequences exactly if they are emitted. -/
theorem Act.event_ne_iff {act : Act} (h : act.isFinal) (listsAll emits : Bool) :
    act.event ⟨true, listsAll⟩ emits ≠ act.event ⟨false, listsAll⟩ emits ↔ emits = true := by
  have hwrote : ∀ t u : String,
      Event.wrote .error (t.toList ++ ['\n']) ≠ .wrote .error (u.toList ++ ['\n']) ↔ t ≠ u := by
    intro t u
    simp [String.toList_inj]
  cases act with
  | report r => exact (hwrote _ _).trans (r.displayText_ne_iff listsAll emits)
  | failure f => exact (hwrote _ _).trans (f.consoleText_ne_iff emits)
  | _ => cases h

section

variable {σ : Type} (o : Outside σ) {env : Environment} {a : Arguments} {words : List Word}

/-- The failures with which a run has to end quote what is given, if the reasons of the system
    have no escape characters. -/
theorem quotes_of_mem_endingActs (hread : Usage.read words = .ok a) (start : σ)
    (hreasons : ∀ path stream command reason,
      .launched path stream command (.notStarted reason) ∈
        ((run o.system words env).run { outside := start }).2.events → escape ∉ reason.toList)
    {f : Failure} (hf : .failure f ∈ endingActs o env a start) : f.Quotes (IsGiven env a) := by
  unfold endingActs at hf
  cases hload : Settings.load a env with
  | error f' =>
    rw [hload] at hf
    cases List.mem_singleton.mp hf
    exact Settings.load_quotes f hload
  | ok s =>
    rw [hload] at hf
    have hcourse := course_run o hread hload start
    have hinvocations : ∀ i ∈ (sweepReport o env a s start).invocations, ∀ reason,
        i.ending = .notStarted reason → escape ∉ reason.toList := by
      intro i hi reason hending
      -- the reason is what a child answered
      have hcall : (i.command, Ending.notStarted reason) ∈
          callsOf ((run o.system words env).run { outside := start }).2.events := by
        rw [hcourse.callsOf_eq, ← hending]
        exact List.mem_map_of_mem hi
      obtain ⟨e, he, hcall⟩ := List.mem_filterMap.mp hcall
      cases e with
      | launched path stream command ending =>
        cases hcall
        exact hreasons _ _ _ _ he
      | listed stream command => cases hcall
      | wrote stream text => cases hcall
    have hjudged : judged s (sweepReport o env a s start) = .error f := by
      have hreport : Act.failure f ∉ reportActs s (sweepReport o env a s start) := by
        unfold reportActs
        split <;> simp
      have hverdict := (List.mem_append.mp hf).resolve_left hreport
      cases hresult : judged s (sweepReport o env a s start) with
      | ok u => rw [hresult] at hverdict; cases hverdict
      | error f' =>
        rw [hresult] at hverdict
        cases List.mem_singleton.mp hverdict
        rfl
    unfold judged at hjudged
    split at hjudged
    · exact Report.verdict_quotes hinvocations f hjudged
    · cases hjudged

end

/-- What comes of the two switches for colors. A run that stops while its arguments are read
    writes one text, which is neither a report nor the line of a failure nor an entry of a log.
    Any other run has an account: all that is seen of it is what acts make, and of reports and
    failures these are the ones with which it has to end.

    If the words ask for colors and not against them, the report and the failure have the form
    of the colored rendering, whatever the environment says. It is another text than that of
    the plain rendering exactly if the environment or the terminal lets escape sequences be
    emitted, on which the switch has no bearing.

    If the words ask against colors and not for them, no escape character is in the report or
    in the tag of the level of any entry, and in the line of a failure there is none but for
    those of the strings that the user has given. This is so for any environment and terminal,
    as long as the reasons for which the system does not start a command have none. -/
theorem run_colors {σ : Type} (o : Outside σ) (words : List Word) (env : Environment) (start : σ) :
    let emits := Terminal.emits env o.isTerminal
    let events := ((run o.system words env).run { outside := start }).2.events
    match Usage.read words with
    | .error reason => ∃ code, Stopped o.build reason code events
    | .ok a =>
      let view := argumentOptions env a
      ∃ acts : List Act, events = acts.map (Act.event view emits) ∧
        acts.filter Act.isFinal = endingActs o env a start ∧
        (Word.ofString "--color" ∈ words → Word.ofString "--no-color" ∉ words →
          view.colors = true ∧ ∀ act ∈ endingActs o env a start,
            (act.event view emits ≠ act.event { view with colors := false } emits ↔
              emits = true)) ∧
        (Word.ofString "--no-color" ∈ words → Word.ofString "--color" ∉ words →
          (∀ path stream command reason,
            .launched path stream command (.notStarted reason) ∈ events →
              escape ∉ reason.toList) →
          (∀ r, .report r ∈ acts → escape ∉ (r.displayText view emits).toList) ∧
          (∀ f, .failure f ∈ acts →
            EscapesOnlyIn (IsGiven env a) (f.consoleText emits view.colors).toList) ∧
          ∀ logger time remark, .entry logger time remark ∈ acts →
            escape ∉ (logger.tagText remark.level).paint emits) := by
  intro emits events
  cases hread : Usage.read words with
  | error reason =>
    obtain ⟨events', hevents, hfinished⟩ := emits_run o words env { outside := start }
    have hsame : events = events' := hevents
    rw [← hsame] at hfinished
    cases hfinished with
    | stopped hreason hstopped =>
      cases hread.symm.trans hreason
      exact ⟨_, hstopped⟩
    | ran hok => cases hread.symm.trans hok
  | ok a =>
    dsimp only
    have hcolor : a.color = true ↔ Word.ofString "--color" ∈ words :=
      Usage.isSet_iff_mem hread .color
    have hnoColor : a.noColor = true ↔ Word.ofString "--no-color" ∈ words :=
      Usage.isSet_iff_mem hread .noColor
    obtain ⟨acts, hevents, hending, hloggers⟩ := account_run o env a hread start
    refine ⟨acts, hevents, hending, ?_, ?_⟩
    · intro hasked _
      have hcolors : a.wantsColors env = true := by
        rw [Arguments.wantsColors, if_pos (hcolor.mpr hasked)]
      refine ⟨hcolors, fun act hact => ?_⟩
      rw [← hending] at hact
      unfold argumentOptions
      rw [hcolors]
      exact Act.event_ne_iff (List.mem_filter.mp hact).2 a.verbose emits
    · intro hrefused hasked hreasons
      have hcolors : a.wantsColors env = false := by
        rw [Arguments.wantsColors, if_neg (mt hcolor.mp hasked), if_pos (hnoColor.mpr hrefused)]
      refine ⟨?_, ?_, ?_⟩
      · intro r _
        unfold argumentOptions Report.displayText
        rw [hcolors, String.toList_ofList]
        exact r.escape_notMem_plain a.verbose
      · intro f hf
        have hmem : .failure f ∈ endingActs o env a start :=
          hending ▸ List.mem_filter.mpr ⟨hf, rfl⟩
        unfold argumentOptions
        rw [hcolors]
        exact (quotes_of_mem_endingActs o hread start hreasons hmem).consoleText emits
      · intro logger time remark hentry
        have hplain : logger.colors = false := (hloggers logger time remark hentry).trans hcolors
        exact Log.Logger.escape_notMem_tagText hplain emits remark.level

/-- The environment forces colors. Where they are asked for, a failure is shown with them;
    where they are refused, it is not, but the scenario brings an escape character of its
    own. -/
theorem run_colors_asked_and_refused :
    let env : Environment := fun name => if name = "CLICOLOR_FORCE" then some "1" else none
    let o : Outside Unit :=
      { child := fun _ _ _ => pure .success
        now := pure ⟨0, 0⟩
        clock := pure 0
        newSession := pure "00000000"
        isTerminal := true }
    let asked := ["1", "1", "--color", "--launcher="].map Word.ofString
    let a : Arguments := { firstRun := 1, lastRun := 1, launcher := some "", color := true }
    let f : Failure := .config .blankLauncher
    let refused := ["1", "1", "--no-color", "--scenario=\x1b[31m x"].map Word.ofString
    let a' : Arguments :=
      { firstRun := 1, lastRun := 1, scenario := some "\x1b[31m x", noColor := true }
    let f' : Failure := .config (.scenarioCharacter "\x1b[31m x")
    let events := ((run o.system refused env).run { outside := () }).2.events
    Terminal.emits env o.isTerminal = true ∧
    (Usage.read asked = .ok a ∧ endingActs o env a () = [.failure f] ∧
      Act.event ⟨true, false⟩ true (.failure f) ≠ Act.event ⟨false, false⟩ true (.failure f)) ∧
    Usage.read refused = .ok a' ∧
    events = [.wrote .error ((f'.consoleText true false).toList ++ ['\n'])] ∧
    escape ∈ (f'.consoleText true false).toList ∧
    EscapesOnlyIn (IsGiven env a') (f'.consoleText true false).toList := by
  intro env o asked a f refused a' f' events
  have hemits : Terminal.emits env o.isTerminal = true := by decide +kernel
  have hread : Usage.read asked = .ok a := by decide +kernel
  have hread' : Usage.read refused = .ok a' := by decide +kernel
  have hload : Settings.load a env = .error f := by decide +kernel
  have hload' : Settings.load a' env = .error f' := by decide +kernel
  have hacts : endingActs o env a () = [.failure f] := by rw [endingActs, hload]
  have hview : argumentOptions env a = ⟨true, false⟩ := by decide +kernel
  have hcolors : (argumentOptions env a').colors = false := by decide +kernel
  have hevents : events = [.wrote .error ((f'.consoleText true false).toList ++ ['\n'])] := by
    decide +kernel
  have hreasons : ∀ path stream command reason,
      .launched path stream command (.notStarted reason) ∈ events → escape ∉ reason.toList := by
    intro path stream command reason hmem
    rw [hevents] at hmem
    cases List.mem_singleton.mp hmem
  have hdiffers : Act.event ⟨true, false⟩ true (.failure f) ≠
      Act.event ⟨false, false⟩ true (.failure f) := by
    have hrun := run_colors o asked env ()
    simp only [hread] at hrun
    obtain ⟨_, _, _, hasked, _⟩ := hrun
    obtain ⟨_, hshown⟩ := hasked (by decide +kernel) (by decide +kernel)
    rw [hacts, hview, hemits] at hshown
    exact (hshown _ (List.mem_singleton_self _)).mpr rfl
  have hline : EscapesOnlyIn (IsGiven env a') (f'.consoleText true false).toList := by
    have hrun := run_colors o refused env ()
    simp only [hread'] at hrun
    obtain ⟨acts, _, hending, _, hrefused⟩ := hrun
    obtain ⟨_, hgiven, _⟩ := hrefused (by decide +kernel) (by decide +kernel) hreasons
    have hf : Act.failure f' ∈ acts.filter Act.isFinal := by
      rw [hending, endingActs, hload']
      exact List.mem_singleton_self _
    have hquoted := hgiven f' (List.mem_of_mem_filter hf)
    rwa [hemits, hcolors] at hquoted
  exact ⟨hemits, ⟨hread, hacts, hdiffers⟩, hread', hevents, by decide +kernel, hline⟩

/-- Colors are asked for, nothing else is said about them and no terminal is there: the line of
    a failure is plain all the same. -/
theorem run_colors_unforced :
    let words := ["1", "1", "--color", "--launcher="].map Word.ofString
    let o : Outside Unit :=
      { child := fun _ _ _ => pure .success
        now := pure ⟨0, 0⟩
        clock := pure 0
        newSession := pure "00000000"
        isTerminal := false }
    let f : Failure := .config .blankLauncher
    let events := ((run o.system words fun _ => none).run { outside := () }).2.events
    (Word.ofString "--color" ∈ words ∧ Word.ofString "--no-color" ∉ words ∧
      (Usage.read words).toOption.isSome) ∧
    events = [.wrote .error "[CONFIG] Configuration error: Launcher cannot be empty\n".toList] ∧
    f.consoleText true true =
      "[\x1b[1;31mCONFIG\x1b[0m] \x1b[31mConfiguration error: Launcher cannot be empty\x1b[0m" := by
  decide +kernel

end Program

end SimSweep
