import SimSweep.Command
import SimSweep.NumberList
import SimSweep.Preset
import SimSweep.Settings.Environment

/-! # Arguments

    What the command line says. Two run indices are required; anything else is
    left to the environment and to the built-in values if it is not given.
-/

namespace SimSweep

/-- The arguments of the program. -/
structure Arguments where
  firstRun : Int64
  lastRun : Int64
  rates : List Binary64 := []
  distances : List Binary64 := []
  preset : Option Preset := none
  launcher : Option String := none
  scenario : Option String := none
  program : Option String := none
  dryRun : Bool := false
  strict : Bool := false
  json : Bool := false
  color : Bool := false
  noColor : Bool := false
  verbose : Bool := false
  debug : Bool := false
  deriving DecidableEq

namespace Arguments

/-! ## Section 1: Colors -/

/-- The fault of arguments that ask for colors and against them. -/
def conflict? (a : Arguments) : Option ConfigFault :=
  if a.color ∧ a.noColor then some .conflictingColors else none

/-- Whether the environment speaks for colors: a dumb terminal has none, then
    `NO_COLOR` decides against them and otherwise they are wanted. -/
def environmentWantsColors (env : Environment) : Bool :=
  if env "TERM" = some "dumb" then false
  else if (env "NO_COLOR").isSome then false
  else true

/-- Whether colors are wanted: the arguments decide before the environment does. -/
def wantsColors (a : Arguments) (env : Environment) : Bool :=
  if a.color then true
  else if a.noColor then false
  else environmentWantsColors env

/-! ## Section 2: Summary -/

/-- A line of the summary. -/
def summaryLine (name : String) (value : List Char) : List Char :=
  "  ".toList ++ name.toList ++ ": ".toList ++ value ++ ['\n']

/-- A line of the summary for a value that may be absent. -/
def summaryLine? (name : String) : Option (List Char) → List Char
  | none => []
  | some value => summaryLine name value

/-- A line of the summary for values of which there may be none. -/
def summaryNumbers (name : String) (xs : List Binary64) : List Char :=
  if xs.isEmpty then [] else summaryLine name (NumberList.text xs)

/-- The summary of the arguments, for debugging. -/
def summary (a : Arguments) (env : Environment) : String :=
  String.ofList <|
    "Configuration Summary:\n".toList ++
    summaryLine "Runs" (runText a.firstRun ++ "..=".toList ++ runText a.lastRun) ++
    summaryLine? "Preset" (a.preset.map fun p => p.title.toList) ++
    summaryNumbers "Data rates" a.rates ++
    summaryNumbers "Distances" a.distances ++
    summaryLine? "Launcher" (a.launcher.map String.toList) ++
    summaryLine? "Scenario" (a.scenario.map String.toList) ++
    summaryLine "Dry run" (flagText a.dryRun) ++
    summaryLine "Strict" (flagText a.strict) ++
    summaryLine "Colored output" (flagText (a.wantsColors env))

end Arguments

/-! ## Section 3: Settings from arguments -/

namespace Settings

/-- The settings with what the arguments say. A preset replaces both value sets
    before single values do. -/
def override (s : Settings) (a : Arguments) (colors : Bool) : Settings :=
  let s := match a.preset with
    | none => s
    | some p => s.withPreset p
  { s with
    firstRun := a.firstRun
    lastRun := a.lastRun
    rates := if a.rates.isEmpty then s.rates else a.rates
    distances := if a.distances.isEmpty then s.distances else a.distances
    launcher := a.launcher.getD s.launcher
    scenario := a.scenario.getD s.scenario
    program := a.program.getD s.program
    dryRun := a.dryRun
    strict := a.strict
    jsonReport := a.json
    colors := colors
    verbose := a.verbose
    debug := a.debug }

/-- The settings that follow from the arguments and an environment: built-in
    values, then the environment, then the arguments, and all of it validated. -/
def ofArguments (a : Arguments) (env : Environment) (colors : Bool) : Except Failure Settings := do
  match a.conflict? with
  | some fault => .error (.config fault)
  | none => .ok ()
  let s ← merged env {}
  let s := s.override a colors
  s.validate
  return s

/-- The settings where one environment decides on everything. -/
def load (a : Arguments) (env : Environment) : Except Failure Settings :=
  ofArguments a env (a.wantsColors env)

end Settings

end SimSweep
