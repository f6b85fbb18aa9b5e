import SimSweep.Preset
import SimSweep.Text.Layout

/-! # Usage

    The arguments that the program takes, how they are spelled and described, and
    what can be wrong with those that it is given. The help is laid out from the
    descriptions: on request with one line for each argument, or with a paragraph.
-/

namespace SimSweep.Usage

/-! ## Section 1: The arguments -/

/-- An argument that has a value. -/
inductive Slot where
  | firstRun | lastRun
  | rate | distance | preset | launcher | scenario | program
  deriving DecidableEq

/-- An argument without a value. -/
inductive Switch where
  | dryRun | strict | json | color | noColor | verbose | debug
  deriving DecidableEq

/-- An argument that asks for information. -/
inductive Request where
  | help | version
  deriving DecidableEq

/-- The name of a value. -/
def Slot.valueName : Slot → String
  | .firstRun => "INITIAL_RUN"
  | .lastRun => "FINAL_RUN"
  | .rate => "VALUE"
  | .distance => "METRES"
  | .preset => "PRESET"
  | .launcher => "LAUNCHER"
  | .scenario => "SCENARIO"
  | .program => "PROGRAM"

/-- The name that introduces a value; a run index stands alone. -/
def Slot.name? : Slot → Option String
  | .firstRun | .lastRun => none
  | .rate => some "rate"
  | .distance => some "distance"
  | .preset => some "preset"
  | .launcher => some "launcher"
  | .scenario => some "scenario"
  | .program => some "program"

/-- The name of a switch. -/
def Switch.name : Switch → String
  | .dryRun => "dry-run"
  | .strict => "strict"
  | .json => "json"
  | .color => "color"
  | .noColor => "no-color"
  | .verbose => "verbose"
  | .debug => "debug"

/-- The name of a request. -/
def Request.name : Request → String
  | .help => "help"
  | .version => "version"

/-- The letter of a request. -/
def Request.letter : Request → Char
  | .help => 'h'
  | .version => 'V'

/-- The values that are introduced by a name, in the order of the help. -/
def namedSlots : List Slot := [.rate, .distance, .preset, .launcher, .scenario, .program]

/-- The values that stand alone, in their order. -/
def loneSlots : List Slot := [.firstRun, .lastRun]

/-- All switches, in the order of the help. -/
def switches : List Switch := [.dryRun, .strict, .json, .color, .noColor, .verbose, .debug]

/-- All requests, in the order of the help. -/
def requests : List Request := [.help, .version]

/-- An argument that has a name. -/
inductive Named where
  | slot (s : Slot)
  | switch (s : Switch)
  | request (r : Request)
  deriving DecidableEq

/-- The arguments that have names, in the order of the help. -/
def named : List Named :=
  namedSlots.map .slot ++ switches.map .switch ++ requests.map .request

/-- The name of an argument. -/
def Named.name : Named → String
  | .slot s => s.name?.getD ""
  | .switch s => s.name
  | .request r => r.name

/-- The argument of a name. -/
def Named.ofName? (s : String) : Option Named := named.find? fun a => a.name == s

/-- The request of a letter. -/
def Request.ofLetter? (c : Char) : Option Request := requests.find? fun r => r.letter == c

/-- How a value is spelled: with its name, if it has one. -/
def Slot.spelling (s : Slot) : String :=
  match s.name? with
  | none => "<" ++ s.valueName ++ ">"
  | some name => "--" ++ name ++ " <" ++ s.valueName ++ ">"

/-- How an argument with a name is spelled. -/
def Named.spelling : Named → String
  | .slot s => s.spelling
  | .switch s => "--" ++ s.name
  | .request r => "--" ++ r.name

/-! ## Section 2: Faults -/

/-- What is wrong with the arguments. -/
inductive Fault where
  /-- Required values are missing. -/
  | missing (slots : List Slot)
  /-- The program takes no such argument. -/
  | unknown (argument : String)
  /-- A value cannot be read. -/
  | badValue (slot : Slot) (value reason : String)
  /-- A value is none of those that are possible, or not there at all. -/
  | noSuchValue (slot : Slot) (value : String)
  /-- An argument may be given once only. -/
  | repeated (argument : Named)
  /-- An argument that has no value is given one. -/
  | unwantedValue (argument : Named) (value : String)
  /-- A value is not text. -/
  | notText
  deriving DecidableEq

/-- What the program does instead of a sweep. -/
inductive Stop where
  | help (long : Bool)
  | version
  | fault (f : Fault)
  deriving DecidableEq

/-- The wording of a fault. -/
def Fault.message : Fault → String
  | .missing slots =>
    "the following required arguments were not provided: " ++
      ", ".intercalate (slots.map Slot.spelling)
  | .unknown argument => "unexpected argument '" ++ argument ++ "' found"
  | .badValue slot value reason =>
    "invalid value '" ++ value ++ "' for '" ++ slot.spelling ++ "': " ++ reason
  | .noSuchValue slot value => "invalid value '" ++ value ++ "' for '" ++ slot.spelling ++ "'"
  | .repeated argument => "the argument '" ++ argument.spelling ++ "' cannot be used multiple times"
  | .unwantedValue argument value =>
    "unexpected value '" ++ value ++ "' for '" ++ argument.spelling ++
      "' found; no more were expected"
  | .notText => "invalid UTF-8 was detected in one or more arguments"

/-! ## Section 3: Help -/

/-- The name of the program. -/
def programName : String := "wave-sweep"

/-- The version of the program. -/
def programVersion : String := "0.1.0"

/-- What the program does. -/
def purpose : String := "Parameter sweep driver for the ns-3 WAVE UDP end-to-end scenario"

/-- What a value is for. -/
def Slot.description : Slot → String
  | .firstRun => "First run index; also used as the RNG seed"
  | .lastRun => "Last run index (inclusive)"
  | .rate => "Application data-rate value passed as --intPck (can be used multiple times)"
  | .distance => "Node distance in metres (can be used multiple times)"
  | .preset => "Use a compiled-in set of data rates and distances"
  | .launcher => "Command that launches the simulator"
  | .scenario => "Scenario name passed to --run"
  | .program => "Program placeholder inside --command-template"

/-- What a switch is for. -/
def Switch.description : Switch → String
  | .dryRun => "Print the commands without running them"
  | .strict => "Exit with an error if any invocation failed (the sweep still runs to the end)"
  | .json => "Print the final summary as JSON"
  | .color => "Force colored output"
  | .noColor => "Disable colored output"
  | .verbose => "Enable verbose output"
  | .debug => "Enable debug output"

/-- What a request is for; the help points at its other form. -/
def Request.description (long : Bool) : Request → String
  | .help =>
    if long then "Print help (see a summary with '-h')" else "Print help (see more with '--help')"
  | .version => "Print version"

/-- The possible values of an argument with what they mean. -/
def Slot.choices : Slot → List (String × String)
  | .preset =>
    [(Preset.standard.name, "One data rate, one distance"),
     (Preset.full.name, "Full grid: five data rates by twenty-two distances")]
  | _ => []

/-- An argument in the help. -/
structure Item where
  /-- The letter in front of the spelling, or blanks of the same width. -/
  lead : String
  spelling : String
  description : String
  choices : List (String × String)

/-- A value in the help. -/
def Slot.item (s : Slot) : Item :=
  ⟨if s.name?.isNone then "  " else "      ", s.spelling, s.description, s.choices⟩

/-- An argument with a name in the help. -/
def Named.item (long : Bool) : Named → Item
  | .slot s => s.item
  | .switch s => ⟨"      ", "--" ++ s.name, s.description, []⟩
  | .request r => ⟨"  -" ++ r.letter.toString ++ ", ", "--" ++ r.name, r.description long, []⟩

/-- The first column of an argument. -/
def Item.head (i : Item) : List Char := i.lead.toList ++ i.spelling.toList

/-- The choices at the end of a line. -/
def Item.choiceList (i : Item) : List Char :=
  if i.choices.isEmpty then []
  else
    " [possible values: ".toList ++
      joinWith ", ".toList (i.choices.map fun (name, _) => name.toList) ++ [']']

/-- The blanks in front of a paragraph. -/
def paragraphIndent : List Char := List.replicate 10 ' '

/-- The choices below a paragraph, with their meanings one below the other. -/
def Item.choiceParagraph (i : Item) : List Char :=
  if i.choices.isEmpty then []
  else
    let width := (i.choices.map fun (name, _) => name.length).foldl max 0
    '\n' :: paragraphIndent ++ "Possible values:\n".toList ++
      i.choices.flatMap fun (name, meaning) =>
        paragraphIndent ++ "- ".toList ++ padRight (width + 2) (name.toList ++ [':']) ++
          meaning.toList ++ ['\n']

/-- The lines of some arguments with their descriptions in one column. -/
def lines (items : List Item) : List Char :=
  let width := (items.map fun i => i.head.length).foldl max 0
  items.flatMap fun i =>
    padRight (width + 2) i.head ++ i.description.toList ++ i.choiceList ++ ['\n']

/-- The paragraphs of some arguments. -/
def paragraphs (items : List Item) : List Char :=
  joinWith ['\n'] <| items.map fun i =>
    i.head ++ '\n' :: paragraphIndent ++ i.description.toList ++ '\n' :: i.choiceParagraph

/-- The help. -/
def help (long : Bool) : String :=
  let list := if long then paragraphs else lines
  String.ofList <|
    purpose.toList ++ "\n\nUsage: ".toList ++ programName.toList ++ " [OPTIONS] ".toList ++
      joinWith [' '] (loneSlots.map fun s => s.spelling.toList) ++
    "\n\nArguments:\n".toList ++ list (loneSlots.map Slot.item) ++
    "\nOptions:\n".toList ++ list (named.map (Named.item long))

/-- The line of the version. -/
def version : String := programName ++ " " ++ programVersion ++ "\n"

/-- What is written for a fault. -/
def Fault.report (f : Fault) : String :=
  "error: " ++ f.message ++ "\n\nFor more information, try '--help'.\n"

end SimSweep.Usage
