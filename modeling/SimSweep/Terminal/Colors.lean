import SimSweep.Settings.Environment

/-! # Whether a terminal takes escape sequences

    Whatever the settings want, escape sequences are emitted only if the
    environment asks for them or a terminal is there that takes them.
-/

namespace SimSweep.Terminal

/-- Whether a variable is set, and to something else than zero. -/
def switchedOn? (env : Environment) (name : String) : Option Bool :=
  (env name).map fun value => value != "0"

/-- Whether escape sequences are emitted: `CLICOLOR_FORCE` can ask for them, then
    `NO_COLOR` can refuse them, and otherwise they go to a terminal only, unless
    `CLICOLOR` is zero. -/
def emits (env : Environment) (isTerminal : Bool) : Bool :=
  if switchedOn? env "CLICOLOR_FORCE" = some true then true
  else if (switchedOn? env "NO_COLOR").isSome then false
  else (switchedOn? env "CLICOLOR").getD true && isTerminal

end SimSweep.Terminal
