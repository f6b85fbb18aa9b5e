import SimSweep.Shell.Builtin.Options
import SimSweep.Shell.Fields
import SimSweep.Text.Integer

/-! # Built-in commands on variables

    Setting, marking, listing and removing variables, the options and arguments of the
    shell, aliases, and reading lines into variables.
-/

namespace SimSweep.Shell.Builtin

open Kernel

/-! ## Section 1: Variables -/

/-- The variables that fulfil a condition, by name. -/
def listed (m : Machine) (wanted : Variable → Bool) : List Variable :=
  (m.bindings.filter wanted).mergeSort fun a b => !decide (b.name < a.name)

/-- Prints variables as commands that set them. -/
def printVariables (head : String) (wanted : Variable → Bool) : Run Unit := do
  (listed (← get) wanted).forM fun v =>
    match v.value with
    | some s => print (head ++ v.name ++ "=" ++ quoted s ++ "\n")
    | none => if head.isEmpty then pure () else print (head ++ v.name ++ "\n")

/-- Sets variables and marks them in some way, or lists those that are. -/
def declare (title : String) (isMarked : Variable → Bool) (mark : Variable → Variable)
    (args : List String) : Run Unit := do
  setStatus 0
  let (options, args) ← splitOptions "p" args
  if args.isEmpty ∨ has options 'p' then printVariables (title ++ " ") isMarked
  else args.forM fun a => do
    let (name, value) := splitAssignment a
    if ¬ isName name.toList then fail (name ++ ": bad variable name")
    if let some v := value then assign name v
    modify fun m =>
      m.putVariable (mark ((m.binding? name).getD { name, value := none }))

/-- Marks variables for children. -/
def export_ : List String → Run Unit :=
  declare "export" (·.isExported) fun v => { v with isExported := true }

/-- Marks variables as ones that may not be changed. -/
def readonly : List String → Run Unit :=
  declare "readonly" (·.isFrozen) fun v => { v with isFrozen := true }

/-- Makes variables the present function's own; a dash stands for the options. -/
def local_ (args : List String) : Run Unit := do
  setStatus 0
  args.forM fun a => do
    let m ← get
    match m.scopes with
    | [] => fail "not in a function"
    | scope :: outer =>
      if a = "-" then set { m with scopes := (.options m.options :: scope) :: outer }
      else
        let (name, value) := splitAssignment a
        if ¬ isName name.toList then fail (name ++ ": bad variable name")
        shadow name value false

/-- Removes variables or functions. -/
def unset (args : List String) : Run Unit := do
  setStatus 0
  let (options, names) ← splitOptions "fv" args
  names.forM fun n => do
    let m ← get
    if (options.getLast?.map Prod.fst) = some 'f' then
      set { m with functions := m.functions.filter fun (f, _) => f != n }
    else
      if ¬ isName n.toList then fail (n ++ ": bad variable name")
      unassign n

/-! ## Section 2: Options and arguments -/

/-- The name of the option of a letter. -/
def optionName? (dialect : Dialect) (letter : Char) : Option String :=
  ((Machine.optionNames dialect).find? fun (l, _) => l == some letter).map Prod.snd

/-- Switches an option on or off. The modes of an editor exclude each other. -/
def switch (name : String) (on : Bool) : Run Unit := do
  modify fun m => m.switch name on
  if on ∧ name = "vi" then modify fun m => m.switch "emacs" false
  if on ∧ name = "emacs" then modify fun m => m.switch "vi" false
  if on ∧ name = "monitor" then
    complain "can't access tty; job control turned off"
    modify fun m => m.switch "monitor" false

/-- Switches an option on or off by its letter. -/
def switchLetter (on : Bool) (letter : Char) : Run Unit := do
  let m ← get
  match optionName? m.dialect letter, m.dialect with
  | some name, _ => switch name on
  | none, .plain => fail ("Illegal option -" ++ String.singleton letter)
  | none, .rich =>
    complain ((if on then "-" else "+") ++ String.singleton letter ++ ": invalid option")
    showUsage

/-- Switches an option on or off by its name. -/
def switchNamed (on : Bool) (name : String) : Run Unit := do
  let m ← get
  if (Machine.optionNames m.dialect).any fun (_, n) => n == name then switch name on
  else match m.dialect with
    | .plain => fail ("Illegal option -o " ++ name)
    | .rich => misuse (name ++ ": invalid option name")

/-- Lists the options, as a table or as commands that set them. -/
def listOptions (asTable : Bool) : Run Unit := do
  let m ← get
  if asTable ∧ m.dialect = .plain then print "Current option settings\n"
  (Machine.optionNames m.dialect).forM fun (_, name) =>
    if asTable then
      let fill := match m.dialect with
        | .plain => String.ofList (List.replicate (16 - name.length) ' ')
        | .rich => String.ofList (List.replicate (15 - name.length) ' ') ++ "\t"
      print (name ++ fill ++ (if m.isOn name then "on" else "off") ++ "\n")
    else print ("set " ++ (if m.isOn name then "-" else "+") ++ "o " ++ name ++ "\n")

/-- Sets the arguments of the shell. -/
def setArguments (args : List String) : Run Unit :=
  modify fun m => { m with arguments := args, optionIndex := 1, optionOffset := 0 }

/-- Switches the options of some letters. An `o` takes the name of an option from the
    arguments, or lists the options if there are none. The result is what is left. -/
def switchLetters (on : Bool) : List Char → List String → Run (List String)
  | [], args => return args
  | 'o' :: cs, [] => do
    listOptions on
    switchLetters on cs []
  | 'o' :: cs, name :: args => do
    switchNamed on name
    switchLetters on cs args
  | c :: cs, args => do
    switchLetter on c
    switchLetters on cs args

/-- Sets options and arguments. The number bounds the arguments. -/
def setOptions : Nat → List String → Run Unit
  | 0, _ => pure ()
  | _, [] => pure ()
  | fuel + 1, a :: rest =>
    match a.toList with
    | ['-', '-'] => setArguments rest
    | ['-'] => do
      modify fun m => (m.switch "xtrace" false).switch "verbose" false
      if ¬ rest.isEmpty then setArguments rest
    | '-' :: cs => do setOptions fuel (← switchLetters true cs rest)
    | '+' :: cs => do setOptions fuel (← switchLetters false cs rest)
    | _ => setArguments (a :: rest)

/-- Sets options and arguments, or lists the variables. -/
def set_ (args : List String) : Run Unit :=
  if args.isEmpty then do
    printVariables "" fun _ => true
    setStatus 0
  else do
    setOptions (args.length + 1) args
    setStatus 0

/-- Drops arguments. -/
def shift (args : List String) : Run Unit := do
  let n ← match args with
    | s :: _ => countOf s
    | [] => pure 1
  let m ← get
  if m.arguments.length < n then fail "can't shift that many"
  set { m with arguments := m.arguments.drop n, status := 0, optionIndex := 1, optionOffset := 0 }

/-- What is known of a letter in a text of options: whether it takes an argument, or
    none if it is no option. -/
def letterOf? (text : List Char) (c : Char) : Option Bool :=
  optionOf? (match text with
    | ':' :: rest => rest
    | rest => rest) c

/-- Takes the next option out of arguments. The result is its letter, its argument if it
    is to be set, whether there was one, the next index and the offset. -/
def nextOption (text : List Char) (args : List String) (index offset : Nat) :
    Run (Char × Option (Option String) × Bool × Nat × Nat) := do
  let current := if offset = 0 ∨ index ≤ 1 then [] else ((args[index - 2]?).getD "").toList.drop offset
  let isSilent := text.head? == some ':'
  let next := args[index - 1]?
  let start : Option (List Char × Nat) :=
    if ¬ current.isEmpty then some (current, index)
    else match next.map String.toList with
      | some ('-' :: c :: cs) => if c = '-' ∧ cs.isEmpty then none else some (c :: cs, index + 1)
      | _ => none
  let word (i : Nat) : Nat := ((args[i - 2]?).getD "").length
  match start with
  | none =>
    return ('?', none, false, if current.isEmpty ∧ next = some "--" then index + 1 else index, 0)
  | some ([], i) => return ('?', none, false, i, 0)
  | some (c :: cs, i) =>
    let offset := if cs.isEmpty then 0 else word i - cs.length
    match letterOf? text c with
    | none =>
      if isSilent then return ('?', some (some (String.singleton c)), true, i, offset)
      else
        emit 2 ("Illegal option -" ++ String.singleton c ++ "\n")
        return ('?', some none, true, i, offset)
    | some false => return (c, some (some ""), true, i, offset)
    | some true =>
      if ¬ cs.isEmpty then return (c, some (some (String.ofList cs)), true, i, 0)
      else match args[i - 1]? with
        | some a => return (c, some (some a), true, i + 1, 0)
        | none =>
          if isSilent then return (':', some (some (String.singleton c)), true, i, 0)
          else
            emit 2 ("No arg for -" ++ String.singleton c ++ " option\n")
            return ('?', some none, true, i, 0)

/-- Takes the next option out of the arguments of the shell, or out of other ones. -/
def getopts (args : List String) : Run Unit := do
  match (← splitOptions "" args).2 with
  | text :: name :: others =>
    let m ← get
    let words := if others.isEmpty then m.arguments else others
    let (index, offset) :=
      if words.length + 1 < m.optionIndex then (1, 0) else (max 1 m.optionIndex, m.optionOffset)
    let (letter, argument, found, index, offset) ← nextOption text.toList words index offset
    match argument with
    | some (some s) => assign "OPTARG" s
    | some none => unassign "OPTARG"
    | none => pure ()
    assign "OPTIND" (numberText index)
    assign name (String.singleton letter)
    modify fun m => { m with optionIndex := index, optionOffset := offset
                             status := if found then 0 else 1 }
  | _ => fail "Usage: getopts optstring var [arg...]"

/-! ## Section 3: Aliases -/

/-- Defines aliases, or lists them. -/
def alias_ (args : List String) : Run Unit := do
  setStatus 0
  let show_ (name text : String) : Run Unit := print (name ++ "=" ++ quoted text ++ "\n")
  if args.isEmpty then
    let aliases := (← get).aliases.mergeSort fun a b => Machine.row Machine.nameRows a.1 ≤ Machine.row Machine.nameRows b.1
    aliases.forM fun (name, text) => show_ name text
  args.forM fun a => do
    let start := a.toList.head?
    let name := String.ofList
      (start.toList ++ (a.toList.drop 1).takeWhile (· ≠ '='))
    match a.toList.drop name.length with
    | '=' :: text =>
      modify fun m =>
        let text := String.ofList text
        { m with aliases :=
            if m.aliases.any fun (n, _) => n == name then
              m.aliases.map fun (n, s) => if n == name then (n, text) else (n, s)
            else m.aliases ++ [(name, text)] }
    | _ =>
      match (← get).aliases.lookup a with
      | some text => show_ a text
      | none =>
        emit 2 ("alias: " ++ a ++ " not found\n")
        setStatus 1

/-- Removes aliases. -/
def unalias (args : List String) : Run Unit := do
  setStatus 0
  let (options, names) ← splitOptions "a" args
  if has options 'a' then modify fun m => { m with aliases := [] }
  else names.forM fun name => do
    let m ← get
    if m.aliases.any fun (n, _) => n == name then
      set { m with aliases := m.aliases.filter fun (n, _) => n != name }
    else
      emit 2 ("unalias: " ++ name ++ " not found\n")
      setStatus 1

/-! ## Section 4: Reading -/

/-- Reads the pieces of a line, backwards behind those that are given; the result says
    whether the line has an end. A backslash takes the meaning from what follows it
    unless the line is taken as it is. The number bounds the characters. -/
def readPieces (asIs : Bool) : Nat → List Piece → Run (List Piece × Bool)
  | 0, pieces => return (pieces, false)
  | fuel + 1, pieces => do
    let one : Run (Option Char) := do
      match ← Work.read 0 1 with
      | .ok bytes => return (bytes.toList.head?).map fun b => Char.ofNat b.toNat
      | .error _ => return none
    match ← one with
    | none => return (pieces, false)
    | some '\n' => return (pieces, true)
    | some '\x00' => readPieces asIs fuel pieces
    | some '\\' =>
      if asIs then readPieces asIs fuel (.loose '\\' :: pieces)
      else match ← one with
        | none => return (pieces, false)
        | some '\n' => readPieces asIs fuel (.region false :: pieces)
        | some c => readPieces asIs fuel (.region false :: .fast c true :: pieces)
    | some c => readPieces asIs fuel (.loose c :: pieces)

/-- The most characters that a line may have. -/
def lineLimit : Nat := 10000000

/-- Reads a line of the input into variables. -/
def read (args : List String) : Run Unit := do
  let (options, names) ← splitOptions "p:r" args
  if names.isEmpty then fail "arg count"
  let (pieces, ended) ← readPieces (has options 'r') lineLimit [.region false]
  let m ← get
  set { m with status := if ended then 0 else 1 }
  let fields := Fields.ofPieces m.separators pieces.reverse (some names.length)
  let values := fields.map Marked.text ++ List.replicate names.length ""
  (names.zip values).forM fun (name, value) => assign name value

end SimSweep.Shell.Builtin
