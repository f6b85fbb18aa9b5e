import SimSweep.Command
import SimSweep.Failure
import SimSweep.NumberList
import SimSweep.Preset

/-! # Settings

    Everything that decides what a sweep does: its plan, the template of its
    commands and the flags of its mode. Settings may be *validated*, which makes
    sure that every number means something to the simulator and that the three
    texts of the template keep their places in the command line.
-/

namespace SimSweep

/-- The settings of a sweep. -/
structure Settings extends Plan, Template where
  rates := Preset.standard.rates
  distances := Preset.standard.distances
  firstRun := 1
  lastRun := 1
  /-- Whether commands are listed and not run. -/
  dryRun : Bool := false
  /-- Whether a failed invocation makes the sweep fail. -/
  strict : Bool := false
  /-- Whether the report is written as JSON. -/
  jsonReport : Bool := false
  /-- Whether colors are wanted. -/
  colors : Bool := true
  verbose : Bool := false
  debug : Bool := false
  deriving DecidableEq

/-- The word for a flag. -/
def flagText (b : Bool) : List Char := if b then "true".toList else "false".toList

namespace Settings

/-- The settings with both value sets of a preset. -/
def withPreset (s : Settings) (p : Preset) : Settings :=
  { s with rates := p.rates, distances := p.distances }

/-! ## Section 1: Validation -/

/-- Every quantity is a finite number that is not below zero. -/
def checkQuantity (q : Quantity) (x : Binary64) : Except Failure Unit :=
  if ¬ x.isFinite then .error (.validation (.notFinite q x))
  else if x.isNegative then .error (.validation (.negative q x))
  else .ok ()

/-- A data rate is an interval in whole microseconds, which the simulator holds in
    32 bits. -/
def checkInterval (x : Binary64) : Except Failure Unit :=
  if ¬ x.isWhole ∨ x.exceeds intervalLimit then .error (.validation (.notInterval x))
  else .ok ()

/-- A data rate is a quantity and an interval. -/
def checkRate (x : Binary64) : Except Failure Unit := do
  checkQuantity .dataRate x
  checkInterval x

/-- Whether a character could end a bare word or open a quoted one. -/
def breaksWord (c : Char) : Bool := isBlank c || c == '"'

/-- The launcher says something, the scenario is one bare word, and the program
    does not close the quotes it stands in. -/
def checkTemplate (t : Template) : Except Failure Unit :=
  if isBlankText t.launcher then .error (.config .blankLauncher)
  else if isBlankText t.scenario then .error (.config .blankScenario)
  else if t.scenario.toList.any breaksWord then
    .error (.config (.scenarioCharacter t.scenario))
  else if isBlankText t.program then .error (.config .blankProgram)
  else if t.program.toList.contains '"' then .error (.config (.quotedProgram t.program))
  else .ok ()

/-- Refuses settings for the first thing that is wrong with them: the data rates
    come first, then the distances, then the texts. -/
def validate (s : Settings) : Except Failure Unit := do
  s.rates.forM checkRate
  s.distances.forM (checkQuantity .distance)
  checkTemplate s.toTemplate

/-! ## Section 2: Summary -/

/-- A line of the summary: a name and a value. -/
def summaryLine (name : String) (value : List Char) : List Char :=
  name.toList ++ ": ".toList ++ value

/-- A list of numbers in brackets. -/
def bracketed (xs : List Binary64) : List Char := '[' :: NumberList.text xs ++ [']']

/-- The lines of the summary. -/
def summaryLines (s : Settings) : List (List Char) :=
  [summaryLine "Data rates" (bracketed s.rates),
   summaryLine "Distances" (bracketed s.distances),
   summaryLine "Runs" (runText s.firstRun ++ "..=".toList ++ runText s.lastRun),
   summaryLine "Invocations" (Decimal.digitsOf s.count),
   summaryLine "Launcher" s.launcher.toList,
   summaryLine "Scenario" s.scenario.toList,
   summaryLine "Program" s.program.toList,
   summaryLine "Dry run" (flagText s.dryRun),
   summaryLine "Strict" (flagText s.strict),
   summaryLine "Color Output" (flagText s.colors),
   summaryLine "Verbose" (flagText s.verbose),
   summaryLine "Debug" (flagText s.debug)]

/-- The summary of the settings, for debugging. -/
def summary (s : Settings) : String := String.ofList (joinWith ['\n'] s.summaryLines)

end Settings

end SimSweep
