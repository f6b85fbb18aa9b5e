import SimSweep.Plan
import SimSweep.Text.Integer

/-! # Simulator commands

    A template holds what all commands of a sweep have in common; rendering one
    point gives a line for the command shell. The launcher stands in front as it
    is, the scenario is a bare word, and the program is the start of one word in
    double quotes that carries the four parameters of the point.
-/

namespace SimSweep

/-- The fixed parts of the commands of a sweep. -/
structure Template where
  launcher : String := "./waf"
  scenario : String := "wave-udp-e2e"
  program : String := "%s"
  deriving DecidableEq

/-- The decimal text of a run index. -/
def runText (run : Int64) : List Char := intText run.toInt

namespace Template

/-- The parameters of a point, in the order in which the simulator is given them. -/
def parameters (p : Point) : List Char :=
  " --RngRun=".toList ++ runText p.run ++
  " --RngSeed=".toList ++ runText p.seed ++
  " --distance=".toList ++ p.distance.write .plain ++
  " --intPck=".toList ++ p.rate.write .plain

/-- The command for one point. -/
def render (t : Template) (p : Point) : String :=
  String.ofList <|
    t.launcher.toList ++ " --run ".toList ++ t.scenario.toList ++
    " --command-template=\"".toList ++ t.program.toList ++ parameters p ++ ['"']

end Template

end SimSweep
