import SimSweep.Arguments
import SimSweep.Arguments.Usage
import SimSweep.Text.Integer
import SimSweep.Text.Utf8

/-! # Reading arguments

    The words of the command line are read from left to right. A value waits until
    it is clear that nothing else belongs to it, and is checked then; so of two bad
    values the first is reported, and a bad value before a word that no argument
    starts with is not reported at all.
-/

namespace SimSweep.Usage

/-! ## Section 1: Values -/

/-- The text of a word that has to be text. -/
def textOf (w : Word) : Except Fault String :=
  match w.text? with
  | some s => .ok s
  | none => .error .notText

/-- A run index: a whole number of 64 bits. -/
def readRun (slot : Slot) (w : Word) : Except Fault Int64 := do
  let s ← textOf w
  match readInt 63 s.toList with
  | .ok i => .ok (Int64.ofInt i)
  | .error f => .error (.badValue slot s f.message)

/-- A quantity: a finite number that is not below zero, with blanks around it. -/
def readQuantity (slot : Slot) (w : Word) : Except Fault Binary64 := do
  let s ← textOf w
  match Binary64.read? (trim s.toList) with
  | none => .error (.badValue slot s ("Invalid number: " ++ s))
  | some x =>
    if ¬ x.isFinite then .error (.badValue slot s ("Value must be finite: " ++ s))
    else if x.isNegative then .error (.badValue slot s ("Value cannot be negative: " ++ s))
    else .ok x

/-- A preset by its name. -/
def readPreset (w : Word) : Except Fault Preset :=
  match w.text?.bind Preset.ofName? with
  | some p => .ok p
  | none => .error (.noSuchValue .preset w.lossy)

/-! ## Section 2: The draft -/

/-- The arguments as far as they are known. -/
structure Draft where
  firstRun : Option Int64 := none
  lastRun : Option Int64 := none
  /-- All other arguments; the run indices in it do not count. -/
  given : Arguments := { firstRun := 0, lastRun := 0 }

namespace Draft

/-- Sets a text that may be given once only. -/
def setText (slot : Slot) (w : Word) (old : Option String) : Except Fault (Option String) := do
  if old.isSome then throw (.repeated (.slot slot))
  return some (← textOf w)

/-- A draft with one more value. -/
def setValue (d : Draft) (slot : Slot) (w : Word) : Except Fault Draft :=
  let a := d.given
  match slot with
  | .firstRun => do return { d with firstRun := some (← readRun slot w) }
  | .lastRun => do return { d with lastRun := some (← readRun slot w) }
  | .rate => do return { d with given := { a with rates := a.rates ++ [← readQuantity slot w] } }
  | .distance => do
    return { d with given := { a with distances := a.distances ++ [← readQuantity slot w] } }
  | .preset => do
    if a.preset.isSome then throw (.repeated (.slot slot))
    return { d with given := { a with preset := some (← readPreset w) } }
  | .launcher => do
    return { d with given := { a with launcher := ← setText slot w a.launcher } }
  | .scenario => do
    return { d with given := { a with scenario := ← setText slot w a.scenario } }
  | .program => do
    return { d with given := { a with program := ← setText slot w a.program } }

/-- Whether a switch is set. -/
def isSet (d : Draft) : Switch → Bool
  | .dryRun => d.given.dryRun
  | .strict => d.given.strict
  | .json => d.given.json
  | .color => d.given.color
  | .noColor => d.given.noColor
  | .verbose => d.given.verbose
  | .debug => d.given.debug

/-- A draft with a switch that may be set once only. -/
def setSwitch (d : Draft) (s : Switch) : Except Fault Draft :=
  let a := d.given
  if d.isSet s then .error (.repeated (.switch s))
  else .ok { d with given := match s with
    | .dryRun => { a with dryRun := true }
    | .strict => { a with strict := true }
    | .json => { a with json := true }
    | .color => { a with color := true }
    | .noColor => { a with noColor := true }
    | .verbose => { a with verbose := true }
    | .debug => { a with debug := true } }

/-- The arguments of a draft in which nothing is missing. -/
def finish (d : Draft) : Except Fault Arguments :=
  match d.firstRun, d.lastRun with
  | some firstRun, some lastRun => .ok { d.given with firstRun, lastRun }
  | some _, none => .error (.missing [.lastRun])
  | none, some _ => .error (.missing [.firstRun])
  | none, none => .error (.missing loneSlots)

end Draft

/-! ## Section 3: Words -/

/-- How far the words have been read. -/
structure Progress where
  draft : Draft := {}
  /-- An argument whose value has been seen but not checked, or not been seen. -/
  pending : Option (Slot × Option Word) := none
  /-- The lone values that have not been seen. -/
  expected : List Slot := loneSlots
  /-- Whether every further word is a lone value. -/
  onlyValues : Bool := false

/-- What a word is before it is known which arguments there are. -/
inductive WordForm where
  /-- The word of two dashes. -/
  | separator
  /-- Two dashes, a name, and possibly a value behind an equals sign. -/
  | long (name : Word) (value : Option Word)
  /-- A dash and at least one letter. -/
  | short (letters : Word)
  | plain

/-- The form of a word. -/
def WordForm.of : Word → WordForm
  | [some '-', some '-'] => .separator
  | some '-' :: some '-' :: rest =>
    let name := rest.takeWhile (· ≠ some '=')
    match rest.drop name.length with
    | _ :: value => .long name (some value)
    | [] => .long name none
  | some '-' :: c :: rest => .short (c :: rest)
  | _ => .plain

/-- Whether the letters behind a dash could make up a negative number: digits, at
    most one point that is not the first, and at most one `e` of either case that is
    neither the first nor the last. -/
def looksNumeric (letters : Word) : Bool :=
  let scan := letters.zipIdx.foldl (fun (state : Bool × Bool × Bool) (c, i) =>
    let (fits, point, exponent) := state
    match c with
    | some '.' => (fits && !point && !exponent && i != 0, true, exponent)
    | some 'e' | some 'E' => (fits && !exponent && i != 0 && i + 1 != letters.length, point, true)
    | some c => (fits && c.isDigit, point, exponent)
    | none => (false, point, exponent)) (true, false, false)
  scan.1

namespace Progress

/-- Checks the value that waits. -/
def settle (p : Progress) : Except Fault Progress :=
  match p.pending with
  | none => .ok p
  | some (slot, none) => .error (.noSuchValue slot "")
  | some (slot, some w) => do
    return { p with draft := ← p.draft.setValue slot w, pending := none }

/-- Answers a request. -/
def answer (p : Progress) (r : Request) (long : Bool) : Except Stop Progress := do
  let _ ← p.settle.mapError .fault
  throw (match r with | .help => .help long | .version => .version)

/-- Takes an argument with a name. -/
def takeNamed (p : Progress) (name : Word) (value : Option Word) : Except Stop Progress :=
  match name.text?.bind Named.ofName?, value with
  | none, _ => .error (.fault (.unknown ("--" ++ name.lossy)))
  | some (.request r), none => p.answer r true
  | some (.switch s), none => Except.mapError .fault do
    let p ← p.settle
    return { p with draft := ← p.draft.setSwitch s }
  | some (.slot slot), none => Except.mapError .fault do
    return { ← p.settle with pending := some (slot, none) }
  | some (.slot slot), some w => Except.mapError .fault do
    let p ← p.settle
    return { p with draft := ← p.draft.setValue slot w }
  | some a, some w => .error (.fault (.unwantedValue a w.lossy))

/-- Takes a value that stands alone. -/
def takeLone (p : Progress) (w : Word) : Except Stop Progress :=
  match p.expected with
  | [] => .error (.fault (.unknown w.lossy))
  | slot :: expected => Except.mapError .fault do
    return { ← p.settle with pending := some (slot, some w), expected }

/-- Takes a word that is not the name of an argument. -/
def takeValue (p : Progress) (w : Word) : Except Stop Progress :=
  match p.pending, p.onlyValues with
  | some (slot, none), false => .ok { p with pending := some (slot, some w) }
  | _, _ => p.takeLone w

/-- Takes one word. -/
def take (p : Progress) (w : Word) : Except Stop Progress :=
  if p.onlyValues then p.takeValue w
  else match WordForm.of w with
    | .separator => .ok { p with onlyValues := true }
    | .long name value => p.takeNamed name value
    | .plain => p.takeValue w
    | .short letters =>
      if ¬ p.expected.isEmpty ∧ looksNumeric letters then p.takeValue w
      else match letters with
        | some c :: _ =>
          match Request.ofLetter? c with
          | some r => p.answer r false
          | none => .error (.fault (.unknown (Word.lossy [some '-', some c])))
        | letters => .error (.fault (.unknown (Word.lossy (some '-' :: letters))))

end Progress

/-- The arguments that the words of the command line say. -/
def read (words : List Word) : Except Stop Arguments := do
  let p ← words.foldlM Progress.take {}
  Except.mapError .fault do (← p.settle).draft.finish

end SimSweep.Usage
