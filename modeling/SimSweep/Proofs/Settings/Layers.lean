import SimSweep.Arguments
import SimSweep.Proofs.Settings.Checks

/-! # The layers of the settings

    Settings come from four layers: built-in values, the environment, a preset and
    the single values of the arguments. The program puts one over the other and
    may give up on the way. Here the result is said at once, value by value, and
    with it when there is none and which failure then is reported: first that of
    contradicting arguments, then those of the two lists in the environment, which
    count even where a later layer replaces the list, then that of the validation.
-/

namespace SimSweep.Settings

/-! ## Section 1: Lists in the environment -/

/-- A variable that is set holds a list of numbers. -/
def Readable (env : Environment) (name : String) : Prop :=
  ∀ text, env name = some text → ∃ xs, NumberList.read name text = .ok xs

/-- A variable is set and cannot be read as a list of numbers. -/
def Unreadable (env : Environment) (name : String) (f : Failure) : Prop :=
  ∃ text, env name = some text ∧ NumberList.read name text = .error f

/-- The list that a variable holds. -/
def listIn (env : Environment) (name : String) : Option (List Binary64) :=
  (env name).bind fun text => (NumberList.read name text).toOption

/-- A failure that names a variable and an entry of the list in it. -/
def BlamesEntry (name : String) (f : Failure) : Prop :=
  ∃ entry, f = .config (.badListEntry name entry)

theorem readEntry_blames (name : String) (entry : List Char) :
    FailsWith (BlamesEntry name) (NumberList.readEntry name entry) := by
  unfold NumberList.readEntry
  split
  · exact .ok _
  · exact .error ⟨_, rfl⟩

/-- A list that cannot be read is a fault of the configuration, which names the
    variable and an entry. -/
theorem Unreadable.isConfig {env : Environment} {name : String} {f : Failure}
    (h : Unreadable env name f) : ∃ entry, f = .config (.badListEntry name entry) := by
  obtain ⟨text, _, hread⟩ := h
  exact FailsWith.mapM (readEntry_blames name) _ f hread

/-- A variable is readable or there is a failure that says why not. -/
theorem readable_or_unreadable (env : Environment) (name : String) :
    Readable env name ∨ ∃ f, Unreadable env name f := by
  cases hset : env name with
  | none =>
    left
    intro text h
    rw [hset] at h
    cases h
  | some text =>
    cases hread : NumberList.read name text with
    | error f => exact .inr ⟨f, text, hset, hread⟩
    | ok xs =>
      left
      intro text' h
      rw [hset] at h
      cases h
      exact ⟨xs, hread⟩

/-- A readable variable replaces a list if it is set and else keeps it. -/
theorem listOr_of_readable {env : Environment} {v : Variable} (h : Readable env v.name)
    (xs : List Binary64) : listOr env v xs = .ok ((listIn env v.name).getD xs) := by
  unfold listOr listIn
  cases hset : env v.name with
  | none => rfl
  | some text =>
    obtain ⟨ys, hread⟩ := h text hset
    simp [hread, Except.toOption]

/-- An unreadable variable fails whatever list it was to replace. -/
theorem listOr_of_unreadable {env : Environment} {v : Variable} {f : Failure}
    (h : Unreadable env v.name f) (xs : List Binary64) : listOr env v xs = .error f := by
  obtain ⟨text, hset, hread⟩ := h
  unfold listOr
  rw [hset]
  exact hread

/-! ## Section 2: All layers at once -/

/-- A value set: the single values if there are any, else that of a preset, else the
    list of the environment, which may be empty, else the built-in one. -/
def chosenNumbers (given : List Binary64) (preset listed : Option (List Binary64))
    (builtIn : List Binary64) : List Binary64 :=
  if given = [] then (preset.or listed).getD builtIn else given

/-- A text: the one that is given, untouched, else the trimmed one of the environment,
    else the built-in one. -/
def chosenText (given inEnvironment : Option String) (builtIn : String) : String :=
  (given.or (inEnvironment.map trimmed)).getD builtIn

/-- The settings that the layers add up to. -/
def layered (a : Arguments) (env : Environment) (colors : Bool) : Settings :=
  let builtIn : Settings := {}
  { rates :=
      chosenNumbers a.rates (a.preset.map Preset.rates) (listIn env "SWEEP_DATA_RATES")
        builtIn.rates
    distances :=
      chosenNumbers a.distances (a.preset.map Preset.distances) (listIn env "SWEEP_DISTANCES")
        builtIn.distances
    firstRun := a.firstRun
    lastRun := a.lastRun
    launcher := chosenText a.launcher (env "SWEEP_LAUNCHER") builtIn.launcher
    scenario := chosenText a.scenario (env "SWEEP_SCENARIO") builtIn.scenario
    program := chosenText a.program (env "SWEEP_PROGRAM") builtIn.program
    dryRun := a.dryRun
    strict := a.strict
    jsonReport := a.json
    colors := colors
    verbose := a.verbose
    debug := a.debug }

theorem textOr_eq (env : Environment) (v : Variable) (text : String) :
    textOr env v text = ((env v.name).map trimmed).getD text := by
  unfold textOr
  cases env v.name <;> rfl

/-- A text that is given stands before that of the environment. -/
theorem getD_textOr (given : Option String) (env : Environment) (v : Variable) (text : String) :
    given.getD (textOr env v text) = chosenText given (env v.name) text := by
  rw [textOr_eq]
  cases given <;> rfl

/-- The arguments, put over the environment, put over built-in values, are the layers
    at once. -/
theorem override_eq_layered (a : Arguments) (env : Environment) (colors : Bool) :
    (mergeTexts env { ({} : Settings) with
        rates := (listIn env "SWEEP_DATA_RATES").getD ({} : Settings).rates
        distances :=
          (listIn env "SWEEP_DISTANCES").getD ({} : Settings).distances }).override a colors =
      layered a env colors := by
  unfold override layered mergeTexts withPreset chosenNumbers
  -- only the presence of a preset decides how far down the two value sets reach
  cases hpreset : a.preset with
  | none =>
    simp only [getD_textOr, Variable.name, List.isEmpty_iff, Option.map_none, Option.none_or]
  | some preset =>
    simp only [getD_textOr, Variable.name, List.isEmpty_iff, Option.map_some, Option.some_or,
      Option.getD_some]

/-! ## Section 3: The outcome -/

/-- A merge of built-in values with an environment, by the lists that can be read. -/
theorem merged_eq (env : Environment) (s : Settings) :
    merged env s =
      (listOr env .rates s.rates).bind fun rates =>
        (listOr env .distances s.distances).bind fun distances =>
          .ok (mergeTexts env { s with rates, distances }) := by
  unfold merged merge
  cases hr : listOr env .rates s.rates with
  | error f => rfl
  | ok rates =>
    simp only [Except.bind]
    cases hd : listOr env .distances s.distances with
    | error f => rfl
    | ok distances => rfl

/-- The steps to the settings, one after the other. -/
theorem ofArguments_eq (a : Arguments) (env : Environment) (colors : Bool) :
    ofArguments a env colors =
      if a.color ∧ a.noColor then .error (.config .conflictingColors)
      else (merged env {}).bind fun s =>
        (s.override a colors).validate.map fun _ => s.override a colors := by
  unfold ofArguments Arguments.conflict?
  by_cases hconflict : a.color ∧ a.noColor
  · rw [if_pos hconflict, if_pos hconflict]
    rfl
  · rw [if_neg hconflict, if_neg hconflict]
    cases hmerged : merged env {} with
    | error f => rfl
    | ok s =>
      cases hvalid : (s.override a colors).validate with
      | error f => simp [bind, Except.bind, Except.map, hvalid]
      | ok u => simp [bind, Except.bind, Except.map, hvalid, pure, Except.pure]

section Outcome

variable {a : Arguments} {env : Environment} {colors : Bool} {f : Failure}

theorem ofArguments_of_conflict (h : a.color ∧ a.noColor) :
    ofArguments a env colors = .error (.config .conflictingColors) := by
  rw [ofArguments_eq, if_pos h]

theorem ofArguments_of_unreadable_rates (h : ¬ (a.color ∧ a.noColor))
    (hrates : Unreadable env "SWEEP_DATA_RATES" f) : ofArguments a env colors = .error f := by
  rw [ofArguments_eq, if_neg h, merged_eq, listOr_of_unreadable (v := .rates) hrates]
  rfl

theorem ofArguments_of_unreadable_distances (h : ¬ (a.color ∧ a.noColor))
    (hrates : Readable env "SWEEP_DATA_RATES") (hdistances : Unreadable env "SWEEP_DISTANCES" f) :
    ofArguments a env colors = .error f := by
  rw [ofArguments_eq, if_neg h, merged_eq, listOr_of_readable (v := .rates) hrates,
    listOr_of_unreadable (v := .distances) hdistances]
  rfl

/-- Once both lists can be read only the validation of the layers is left. -/
theorem ofArguments_of_readable (h : ¬ (a.color ∧ a.noColor))
    (hrates : Readable env "SWEEP_DATA_RATES") (hdistances : Readable env "SWEEP_DISTANCES") :
    ofArguments a env colors =
      (layered a env colors).validate.map fun _ => layered a env colors := by
  rw [ofArguments_eq, if_neg h, merged_eq, listOr_of_readable (v := .rates) hrates,
    listOr_of_readable (v := .distances) hdistances, ← override_eq_layered]
  rfl

end Outcome

/-- The four ways through the steps, in the order in which they part. -/
theorem ofArguments_cases (a : Arguments) (env : Environment) (colors : Bool) :
    ((a.color ∧ a.noColor) ∧
      ofArguments a env colors = .error (.config .conflictingColors)) ∨
    (¬ (a.color ∧ a.noColor) ∧ ∃ f, Unreadable env "SWEEP_DATA_RATES" f ∧
      ofArguments a env colors = .error f) ∨
    (¬ (a.color ∧ a.noColor) ∧ Readable env "SWEEP_DATA_RATES" ∧
      ∃ f, Unreadable env "SWEEP_DISTANCES" f ∧ ofArguments a env colors = .error f) ∨
    (¬ (a.color ∧ a.noColor) ∧ Readable env "SWEEP_DATA_RATES" ∧ Readable env "SWEEP_DISTANCES" ∧
      ofArguments a env colors =
        (layered a env colors).validate.map fun _ => layered a env colors) := by
  by_cases h : a.color ∧ a.noColor
  · exact .inl ⟨h, ofArguments_of_conflict h⟩
  right
  rcases readable_or_unreadable env "SWEEP_DATA_RATES" with hrates | ⟨f, hrates⟩
  · right
    rcases readable_or_unreadable env "SWEEP_DISTANCES" with hdistances | ⟨f, hdistances⟩
    · exact .inr ⟨h, hrates, hdistances, ofArguments_of_readable h hrates hdistances⟩
    · exact .inl ⟨h, hrates, f, hdistances,
        ofArguments_of_unreadable_distances h hrates hdistances⟩
  · exact .inl ⟨h, f, hrates, ofArguments_of_unreadable_rates h hrates⟩

section Result

variable {a : Arguments} {env : Environment} {colors : Bool}

/-- There are settings exactly if nothing stands in the way, and they are the layers. -/
theorem ofArguments_eq_ok_iff {s : Settings} :
    ofArguments a env colors = .ok s ↔
      s = layered a env colors ∧ ¬ (a.color ∧ a.noColor) ∧ Readable env "SWEEP_DATA_RATES" ∧
        Readable env "SWEEP_DISTANCES" ∧ (layered a env colors).validate = .ok () := by
  constructor
  · intro hok
    rcases ofArguments_cases a env colors with
      ⟨_, h⟩ | ⟨_, f, _, h⟩ | ⟨_, _, f, _, h⟩ | ⟨hno, hrates, hdistances, h⟩
    · cases h.symm.trans hok
    · cases h.symm.trans hok
    · cases h.symm.trans hok
    -- once the lists are read it is up to the validation
    · have hvalid := h.symm.trans hok
      cases hv : (layered a env colors).validate with
      | error f => simp [hv, Except.map] at hvalid
      | ok u =>
        rw [hv] at hvalid
        cases hvalid
        exact ⟨rfl, hno, hrates, hdistances, rfl⟩
  · rintro ⟨rfl, hno, hrates, hdistances, hvalid⟩
    rw [ofArguments_of_readable hno hrates hdistances, hvalid]
    rfl

/-- The failure is the first that stands in the way. -/
theorem ofArguments_eq_error_iff {f : Failure} :
    ofArguments a env colors = .error f ↔
      ((a.color ∧ a.noColor) ∧ f = .config .conflictingColors) ∨
      (¬ (a.color ∧ a.noColor) ∧ Unreadable env "SWEEP_DATA_RATES" f) ∨
      (¬ (a.color ∧ a.noColor) ∧ Readable env "SWEEP_DATA_RATES" ∧
        Unreadable env "SWEEP_DISTANCES" f) ∨
      (¬ (a.color ∧ a.noColor) ∧ Readable env "SWEEP_DATA_RATES" ∧ Readable env "SWEEP_DISTANCES" ∧
        (layered a env colors).validate = .error f) := by
  constructor
  · intro herror
    rcases ofArguments_cases a env colors with
      ⟨hc, h⟩ | ⟨hno, g, hrates, h⟩ | ⟨hno, hrates, g, hdistances, h⟩ |
        ⟨hno, hrates, hdistances, h⟩
    · cases h.symm.trans herror
      exact .inl ⟨hc, rfl⟩
    · cases h.symm.trans herror
      exact .inr (.inl ⟨hno, hrates⟩)
    · cases h.symm.trans herror
      exact .inr (.inr (.inl ⟨hno, hrates, hdistances⟩))
    · refine .inr (.inr (.inr ⟨hno, hrates, hdistances, ?_⟩))
      have hvalid := h.symm.trans herror
      cases hv : (layered a env colors).validate with
      | error g =>
        rw [hv] at hvalid
        cases hvalid
        rfl
      | ok u => simp [hv, Except.map] at hvalid
  · rintro (⟨hc, rfl⟩ | ⟨hno, hrates⟩ | ⟨hno, hrates, hdistances⟩ |
      ⟨hno, hrates, hdistances, hvalid⟩)
    · exact ofArguments_of_conflict hc
    · exact ofArguments_of_unreadable_rates hno hrates
    · exact ofArguments_of_unreadable_distances hno hrates hdistances
    · rw [ofArguments_of_readable hno hrates hdistances, hvalid]
      rfl

end Result

/-- Settings follow from arguments and environment exactly if the arguments do not
    contradict themselves, every list in the environment can be read, even one that
    is not used, and the layers add up to valid settings; they are these layers. In
    every other case it is the first of the four faults that is reported, and what is
    wrong with a list is a fault of the configuration that names its variable. -/
theorem ofArguments_by_layers (a : Arguments) (env processEnv : Environment) :
    let result := ofArguments a env (a.wantsColors processEnv)
    let s := layered a env (a.wantsColors processEnv)
    let conflict := a.color = true ∧ a.noColor = true
    (∀ s', result = .ok s' ↔
      s' = s ∧ ¬ conflict ∧ Readable env "SWEEP_DATA_RATES" ∧ Readable env "SWEEP_DISTANCES" ∧
        s.validate = .ok ()) ∧
    (∀ f, result = .error f ↔
      (conflict ∧ f = .config .conflictingColors) ∨
      (¬ conflict ∧ Unreadable env "SWEEP_DATA_RATES" f) ∨
      (¬ conflict ∧ Readable env "SWEEP_DATA_RATES" ∧ Unreadable env "SWEEP_DISTANCES" f) ∨
      (¬ conflict ∧ Readable env "SWEEP_DATA_RATES" ∧ Readable env "SWEEP_DISTANCES" ∧
        s.validate = .error f)) ∧
    (∀ name f, Unreadable env name f → ∃ entry, f = .config (.badListEntry name entry)) := by
  intro result s conflict
  refine ⟨?_, ?_, ?_⟩
  · intro s'
    exact ofArguments_eq_ok_iff
  · intro f
    exact ofArguments_eq_error_iff
  · intro name f h
    exact h.isConfig

end SimSweep.Settings
