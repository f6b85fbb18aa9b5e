import SimSweep.Number.Numeral
import SimSweep.Json.Fault
import SimSweep.Terminal.Style

/-! # Failures

    Why the program gives up, by cause. The kind of a failure decides its
    category, its exit code and the advice that goes with it; the cause decides
    the wording.
-/

namespace SimSweep

/-- What is wrong with the configuration. -/
inductive ConfigFault where
  | conflictingColors
  | badListEntry (variableName entry : String)
  | blankLauncher
  | blankScenario
  | scenarioCharacter (scenario : String)
  | blankProgram
  | quotedProgram (program : String)
  | other (message : String)
  deriving DecidableEq

/-- What a value stands for. -/
inductive Quantity where
  | dataRate
  | distance
  deriving DecidableEq

/-- What is wrong with a value. -/
inductive ValueFault where
  | notFinite (quantity : Quantity) (value : Binary64)
  | negative (quantity : Quantity) (value : Binary64)
  | notInterval (value : Binary64)
  | other (message : String)
  deriving DecidableEq

/-- What kept invocations from starting. -/
inductive LaunchFault where
  | notStarted (count total : Nat) (reason : String)
  | other (message : String)
  deriving DecidableEq

/-- Why the program gives up. -/
inductive Failure where
  | config (fault : ConfigFault)
  | validation (fault : ValueFault)
  | launch (fault : LaunchFault)
  | sweep (failed total : Nat)
  | internal (message : String)
  deriving DecidableEq

/-- The name of a quantity in messages. -/
def Quantity.name : Quantity → String
  | .dataRate => "data rate"
  | .distance => "distance"

/-- The greatest interval between packets, in microseconds, that the simulator
    can be given: the greatest number of 32 bits. -/
def intervalLimit : Nat := Nat.pow 2 32 - 1

/-! ## Section 1: Wording -/

/-- The wording of a fault of the configuration. -/
def ConfigFault.message : ConfigFault → String
  | .conflictingColors => "Cannot specify both --color and --no-color"
  | .badListEntry name entry =>
    "Invalid " ++ name ++ " entry '" ++ entry ++ "': invalid float literal"
  | .blankLauncher => "Launcher cannot be empty"
  | .blankScenario => "Scenario name cannot be empty"
  | .scenarioCharacter scenario =>
    "Scenario name must not contain whitespace or quotes: " ++ scenario
  | .blankProgram => "Program placeholder cannot be empty"
  | .quotedProgram program => "Program placeholder must not contain double quotes: " ++ program
  | .other message => message

/-- The wording of a fault of a value. -/
def ValueFault.message : ValueFault → String
  | .notFinite quantity value => quantity.name ++ " must be finite, got " ++ value.text
  | .negative quantity value => quantity.name ++ " cannot be negative, got " ++ value.text
  | .notInterval value =>
    "data rate must be a whole number of microseconds between 0 and " ++
      toString intervalLimit ++ ", got " ++ value.text
  | .other message => message

/-- The wording of a launch fault. -/
def LaunchFault.message : LaunchFault → String
  | .notStarted count total reason =>
    toString count ++ " of " ++ toString total ++ " invocations could not be started: " ++ reason
  | .other message => message

namespace Failure

/-- The failure of reading a text as JSON. -/
def ofJsonFault (text : String) (fault : Json.Fault) : Failure :=
  .internal ("JSON serialization error: " ++ fault.message text.toList)

/-- The failure of writing a value as JSON. -/
def ofWriteFault (fault : Json.WriteFault) : Failure :=
  .internal ("JSON serialization error: " ++ fault.message)

/-- The message of a failure. -/
def message : Failure → String
  | .config fault => "Configuration error: " ++ fault.message
  | .validation fault => "Validation error: " ++ fault.message
  | .launch fault => "Launch error: " ++ fault.message
  | .sweep failed total =>
    toString failed ++ " of " ++ toString total ++ " simulator invocations failed"
  | .internal message => "Internal error: " ++ message

/-! ## Section 2: What follows from the kind -/

/-- The tag of a failure on the console and in the log. -/
def category : Failure → String
  | .config _ => "CONFIG"
  | .validation _ => "VALIDATION"
  | .launch _ => "LAUNCH"
  | .sweep _ _ => "SWEEP"
  | .internal _ => "INTERNAL"

/-- The exit code of the program. -/
def exitCode : Failure → Nat
  | .config _ | .validation _ => 1
  | .launch _ => 3
  | .sweep _ _ => 4
  | .internal _ => 99

/-- What the user could do. -/
def suggestion : Failure → String
  | .config _ => "Check the SWEEP_* environment variables and command line flags."
  | .validation _ =>
    "Distances must be finite and non-negative; " ++
      "data rates are whole microsecond intervals that fit in 32 bits."
  | .launch _ => "Run from the ns-3 source tree or point --launcher at waf."
  | .sweep _ _ => "Re-run the failing points with --verbose to see their commands."
  | .internal _ => "This is likely a bug. Please report it with the error details."

/-- The message with the advice. -/
def advice (f : Failure) : String := f.message ++ "\n\nSuggestion: " ++ f.suggestion

/-- The color that shows how serious a failure is. -/
def color : Failure → Color
  | .config _ | .validation _ => .red
  | .launch _ | .sweep _ _ => .yellow
  | .internal _ => .brightRed

/-- The line for the console: the tag in brackets, then the message. -/
def line (f : Failure) : StyledText :=
  StyledText.ofString "[" ++
  StyledText.styled (.boldColored f.color) f.category.toList ++
  StyledText.ofString "] " ++
  StyledText.styled (.colored f.color) f.message.toList

/-- The line for the console, in color if wanted and if the terminal takes
    escape sequences. -/
def consoleText (f : Failure) (emits wantsColor : Bool) : String :=
  String.ofList (f.line.paint (emits && wantsColor))

end Failure

end SimSweep
