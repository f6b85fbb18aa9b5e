import SimSweep.Number.Numeral

/-! # Presets

    The value sets that are built in: one pair of values, and a full grid.
-/

namespace SimSweep

/-- A set of data rates and a set of distances that belong together. -/
inductive Preset where
  /-- One data rate and one distance, used where nothing else is said. -/
  | standard
  /-- Five data rates by twenty-two distances. -/
  | full
  deriving DecidableEq

namespace Preset

/-- The data rates: intervals between packets in microseconds. -/
def rates : Preset → List Binary64
  | .standard => [.ofNat 800000]
  | .full => [.ofNat 800000, .ofNat 8000, .ofNat 800, .ofNat 80, .ofNat 8]

/-- The distances between nodes in metres. -/
def distances : Preset → List Binary64
  | .standard => [.ofNat 50]
  | .full =>
    [2, 5, 10, 20, 30, 40, 50, 60, 70, 80, 90, 100, 110, 115, 120, 125, 130, 135, 140, 145,
      150, 160].map Binary64.ofNat

/-- The name by which a preset is chosen. -/
def name : Preset → String
  | .standard => "default"
  | .full => "full"

/-- The name by which a preset is shown. -/
def title : Preset → String
  | .standard => "Default"
  | .full => "Full"

/-- The preset of a name. -/
def ofName? (s : String) : Option Preset :=
  if s = name .standard then some .standard
  else if s = name .full then some .full
  else none

end Preset

end SimSweep
