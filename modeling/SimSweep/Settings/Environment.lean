import SimSweep.Settings

/-! # Settings from the environment

    Five variables of the environment replace values of the settings. They are
    taken one after the other, and a list that cannot be read ends the merge:
    what was replaced before it stays replaced.
-/

namespace SimSweep

/-- An environment answers a name with a text. A variable whose value is not text
    has no answer, like one that is not set. -/
abbrev Environment := String → Option String

namespace Settings

/-- The variables that replace settings. -/
inductive Variable where
  | rates
  | distances
  | launcher
  | scenario
  | program

/-- The name of a variable. -/
def Variable.name : Variable → String
  | .rates => "SWEEP_DATA_RATES"
  | .distances => "SWEEP_DISTANCES"
  | .launcher => "SWEEP_LAUNCHER"
  | .scenario => "SWEEP_SCENARIO"
  | .program => "SWEEP_PROGRAM"

/-- The list of numbers in a variable, or another list if it is not set. -/
def listOr (env : Environment) (v : Variable) (xs : List Binary64) :
    Except Failure (List Binary64) :=
  match env v.name with
  | none => .ok xs
  | some value => NumberList.read v.name value

/-- The trimmed text in a variable, or another text if it is not set. -/
def textOr (env : Environment) (v : Variable) (text : String) : String :=
  match env v.name with
  | none => text
  | some value => trimmed value

/-- The settings with the texts of the environment. -/
def mergeTexts (env : Environment) (s : Settings) : Settings :=
  { s with
    launcher := textOr env .launcher s.launcher
    scenario := textOr env .scenario s.scenario
    program := textOr env .program s.program }

/-- The settings after a merge, and why it ended early, if it did. -/
def merge (env : Environment) (s : Settings) : Settings × Except Failure Unit :=
  match listOr env .rates s.rates with
  | .error f => (s, .error f)
  | .ok rates =>
    let s := { s with rates }
    match listOr env .distances s.distances with
    | .error f => (s, .error f)
    | .ok distances => (mergeTexts env { s with distances }, .ok ())

/-- The settings after a merge that must not end early. -/
def merged (env : Environment) (s : Settings) : Except Failure Settings :=
  let (s, result) := s.merge env
  result.map fun _ => s

end Settings

end SimSweep
