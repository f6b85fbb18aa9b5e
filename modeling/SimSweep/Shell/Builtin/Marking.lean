import SimSweep.Shell.Builtin.Variables
import SimSweep.Shell.Subject
import SimSweep.Shell.Token

/-! # Built-in commands that mark variables

    In the rich dialect one command declares variables in all ways: as lists, as numbers,
    in capital or small letters, for children, for ever, or for a function.
-/

namespace SimSweep.Shell.Builtin

open Kernel

/-! ## Section 1: Showing variables -/

/-- A text between double quotes, from which a shell reads it back. -/
def doublyQuoted (s : String) : String :=
  if s.toList.all Format.isShownPlainly then
    "\"" ++ String.join (s.toList.map fun c =>
      (if "\"\\$\x60".toList.contains c then "\\" else "") ++ String.singleton c) ++ "\""
  else Format.dollarQuoted s

/-- A text as it is shown: between quotes if it has to be. -/
def shownText (s : String) : String :=
  if s.isEmpty then ""
  else if ¬ s.toList.all Format.isShownPlainly then Format.dollarQuoted s
  else if s.toList.any Format.isMeaningful ∨ s.startsWith "#" ∨ s.startsWith "~" then enclosed s
  else s

/-- A word as it is shown in front of its command: between quotes if it has to be. -/
def shownWord (s : String) : String := if s.isEmpty then "''" else shownText s

/-- The elements of a list as they are shown. -/
def shownElements (e : Elements) : String :=
  let key (s : String) : String :=
    if s.toList.any Format.isMeaningful then doublyQuoted s else s
  let items := e.listed.map fun (s, v) => "[" ++ key s ++ "]=" ++ doublyQuoted v
  "(" ++ " ".intercalate items ++ (if e.isNamed ∧ ¬ items.isEmpty then " )" else ")")

/-- The letters of the marks of a variable. -/
def markLetters (v : Variable) : String :=
  let letters :=
    (match v.elements with
      | some e => if e.isNamed then "A" else "a"
      | none => "") ++
    (if v.isNumber then "i" else "") ++ (if v.isFrozen then "r" else "") ++
    (if v.isExported then "x" else "") ++
    (match v.isUpper with
      | some true => "u"
      | some false => "l"
      | none => "")
  if letters.isEmpty then "--" else "-" ++ letters

/-- Prints the command that declares a variable. -/
def printDeclaration (v : Variable) : Run Unit :=
  print <| "declare " ++ markLetters v ++ " " ++ v.name ++ (match v.elements, v.value with
    | some e, _ => "=" ++ shownElements e
    | none, some s => "=" ++ doublyQuoted s
    | none, none => "") ++ "\n"

/-- Prints variables with their values. -/
def printValues : Run Unit := do
  (listed (← get) fun _ => true).forM fun v =>
    match v.elements, v.value with
    | some e, _ => print (v.name ++ "=" ++ shownElements e ++ "\n")
    | none, some s => print (v.name ++ "=" ++ shownText s ++ "\n")
    | none, none => pure ()

/-! ## Section 2: Declaring variables -/

/-- The parts of an argument that declares: the name, its subscript, whether something is
    put behind the value, and the value. -/
def splitDeclaration (a : String) : String × Option String × Bool × Option String :=
  let (left, value) := splitAssignment a
  let (left, isAdded) := match value with
    | some _ => if left.endsWith "+" then ((left.dropEnd 1).toString, true) else (left, false)
    | none => (left, false)
  let (name, subscript) := splitSubscript left
  (name, subscript, isAdded, value)

/-- Marks a variable as letters say. -/
def mark (letters : List Char) (v : Variable) : Variable :=
  letters.foldl (fun v c =>
    match c with
    | 'a' => { v with
        elements := some (v.elements.getD ((v.value.map fun s => Elements.ofList [s]).getD {}))
        value := none }
    | 'A' => { v with elements := some (v.elements.getD { isNamed := true }), value := none }
    | 'i' => { v with isNumber := true }
    | 'x' => { v with isExported := true }
    | 'u' => { v with isUpper := some true }
    | 'l' => { v with isUpper := some false }
    | _ => v) v

/-- Takes marks from a variable as letters say. -/
def unmark (letters : List Char) (v : Variable) : Variable :=
  letters.foldl (fun v c =>
    match c with
    | 'i' => { v with isNumber := false }
    | 'x' => { v with isExported := false }
    | 'u' | 'l' => { v with isUpper := none }
    | _ => v) v

/-- Makes a variable the present function's own, if it is not yet. -/
def ownVariable (name : String) : Run Unit := do
  let m ← get
  let isOwn := match m.scopes with
    | scope :: _ => scope.any fun
      | .variable n _ => n == name
      | _ => false
    | [] => true
  if !isOwn then
    shadow name none false
    modify (·.dropVariable name)

/-- Declares the variable of an argument. -/
def declareOne (marks unmarks : List Char) (isOwn : Bool) (a : String) : Run Unit := do
  let (name, subscript, isAdded, value) := splitDeclaration a
  if ¬ isName name.toList then
    complain ("\x60" ++ a ++ "': not a valid identifier")
    setStatus 1
  else
    let old := (← get).binding? name
    if old.any (·.isFrozen) ∧ (value.isSome ∨ isOwn) then
      let m ← get
      if m.command = some "export" ∨ m.command = some "readonly" then
        emit 2 ({ m with command := none }.herald ++ name ++ ": readonly variable\n")
      else complain (name ++ ": readonly variable")
      setStatus 1
    else
      if isOwn then ownVariable name
      let v := ((← get).binding? name).getD { name, value := none }
      modify fun m => m.putVariable (unmark unmarks (mark marks v))
      match value with
      | none => pure ()
      | some s =>
        let isList := s.startsWith (String.singleton listMark) ||
          ((marks.contains 'a' || marks.contains 'A') && s.startsWith "(")
        match if isList then ofListText? s else none with
        | some items => storeList name isAdded items
        | none =>
          let m ← get
          let key ← match subscript with
            | some text => some <$> subscriptOf name text
            | none => pure (if (m.binding? name).any (·.elements.isSome) then some "0" else none)
          store name key isAdded s
      if marks.contains 'r' then
        modify fun m => match m.binding? name with
          | some v => m.putVariable { v with isFrozen := true }
          | none => m

/-- The letters behind a plus sign in front of arguments, and the arguments without
    them. -/
def takeUnmarks : List String → List Char × List String
  | [] => ([], [])
  | a :: rest =>
    match a.toList with
    | '+' :: cs =>
      let (letters, rest) := takeUnmarks rest
      (cs ++ letters, rest)
    | _ => ([], a :: rest)

/-- Declares variables with marks of which some are given, or shows them. -/
def declareAll (given : List Char) (isOwn : Bool) (args : List String) : Run Unit := do
  setStatus 0
  let (options, args) ← splitOptions "aAfFgiIlnrtuxp" args
  let (unmarks, args) := takeUnmarks args
  let marks := given ++ options.map Prod.fst
  let m ← get
  let isShown := has options 'p'
  if has options 'f' ∨ has options 'F' then
    args.forM fun name => do
      if (m.functions.lookup name).isSome then
        if has options 'F' then print (name ++ "\n")
      else setStatus 1
    if args.isEmpty ∧ has options 'F' then
      (m.functions.mergeSort fun a b => !decide (b.1 < a.1)).forM fun (name, _) =>
        print ("declare -f " ++ name ++ "\n")
  else if args.isEmpty then
    let wanted (v : Variable) : Bool := marks.all fun c =>
      match c with
      | 'x' => v.isExported
      | 'r' => v.isFrozen
      | 'i' => v.isNumber
      | 'a' => v.elements.any (!·.isNamed)
      | 'A' => v.elements.any (·.isNamed)
      | _ => true
    if marks.isEmpty then printValues
    else (listed m wanted).forM printDeclaration
  else if isShown then
    args.forM fun name => do
      match m.binding? name with
      | some v => printDeclaration v
      | none =>
        complain (name ++ ": not found")
        setStatus 1
  else
    let isOwn := isOwn && m.depth != 0 && !has options 'g'
    args.forM (declareOne marks unmarks isOwn)

/-- Declares variables, which are the present function's own. -/
def declare_ (args : List String) : Run Unit := declareAll [] true args

/-- Declares variables of a function. -/
def ownVariables (args : List String) : Run Unit := do
  if (← get).depth = 0 then
    complain "can only be used in a function"
    setStatus 1
  else declareAll [] true args

/-- Marks variables for children, or no more. -/
def exportAll (args : List String) : Run Unit := do
  let (options, names) ← splitOptions "fnp" args
  if has options 'f' then
    setStatus 0
    names.forM fun name => do
      if ((← get).functions.lookup name).isNone then
        complain (name ++ ": not a function")
        setStatus 1
  else if has options 'n' then
    setStatus 0
    names.forM (declareOne [] ['x'] false)
  else declareAll ['x'] false names

/-- Marks variables as ones that may not be changed. -/
def freezeAll (args : List String) : Run Unit := do
  let (options, names) ← splitOptions "aAfp" args
  declareAll ('r' :: (options.map Prod.fst).filter fun c => c == 'a' || c == 'A') false names

/-- Removes variables, elements or functions. -/
def remove (args : List String) : Run Unit := do
  setStatus 0
  let (options, names) ← splitOptions "fvn" args
  names.forM fun n => do
    let m ← get
    let dropFunction : Run Unit :=
      modify fun m => { m with functions := m.functions.filter fun (f, _) => f != n }
    if has options 'f' then dropFunction
    else
      let (name, subscript) := splitSubscript n
      match m.binding? name, subscript with
      | some { isFrozen := true, .. }, _ =>
        complain (n ++ ": cannot unset: readonly variable")
        setStatus 1
      | some v, some text =>
        if text = "@" ∨ text = "*" then set (m.dropVariable name)
        else
          let key ← subscriptOf name text
          modify fun m => m.putVariable { v with
            elements := some ((m.elementsOf name).remove key), value := none }
      | some _, none => set ((m.dropVariable name).noticing name "")
      | none, _ => if ¬ has options 'v' then dropFunction

end SimSweep.Shell.Builtin
