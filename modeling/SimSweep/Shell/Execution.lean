import SimSweep.Kernel.Program
import SimSweep.Shell.Builtin.Table
import SimSweep.Shell.Reading
import SimSweep.Shell.Redirecting
import SimSweep.Tool.Regex

/-! # Running shell commands

    A shell goes through the trees of commands. What it does itself changes its state;
    programs, pipelines, subshells and commands in the background are processes of
    their own, which start with a copy of that state. The functions call each other;
    `fuel` bounds the depth of the calls.
-/

namespace SimSweep.Shell

open Kernel

/-! ## Section 1: Processes of a shell -/

/-- How a command is run. -/
structure Manner where
  /-- Whether its failure is looked at, so that it does not end the shell. -/
  isTested : Bool := false
  /-- Whether the process ends with it. -/
  isLast : Bool := false

/-- The manner of a command that is followed by others. -/
def Manner.inner (how : Manner) : Manner := { isTested := how.isTested }

/-- The manner of a command whose failure is looked at. -/
def Manner.tested : Manner := { isTested := true }

/-- The depth of calls that no text reaches. -/
def depthLimit : Nat := 1000000000000000

/-- How deep functions may call each other. -/
def functionLimit : Nat := 1000

/-- Whether there are commands for signals, or for the end of the shell. -/
def Machine.hasTraps (m : Machine) : Bool := m.traps.any fun (_, s) => !s.isEmpty

/-- What becomes of a shell that goes on in a process of its own: it has no jobs and no
    commands for signals, and cannot bring back descriptors. -/
def becomeChild : Run Unit := do
  modify fun m => { m with
    saved := []
    jobs := []
    traps := m.traps.filter fun (_, s) => s.isEmpty }
  Work.change fun w => w.changeSelf fun p => { p with caught := [], pending := [] }

/-- What becomes of such a shell if nobody waits for it. The input of the first process
    that was started is empty. -/
def becomeBackground (isFirst : Bool) : Run Unit := do
  Work.change fun w => w.changeSelf fun p => { p with ignored := 2 :: 3 :: p.ignored }
  modify fun m => { m with ignored := 2 :: 3 :: m.ignored }
  if isFirst then
    Work.close 0
    let _ ← Work.openFile "/dev/null" { reads := true }

/-- The place of a program, which is noted if it was found in the usual directories. -/
def placeOf (name : String) (path : Option String) : Run (Except Fault String) := do
  let m ← get
  match path, m.found.lookup name with
  | none, some place => return .ok place
  | path, _ =>
    match ← Builtin.locate name (path.getD m.searched) with
    | .ok place =>
      if path.isNone ∧ ¬ name.contains '/' then
        modify fun m => { m with found := m.found ++ [(name, place)] }
      return .ok place
    | .error f => return .error f

/-- The status that stands for a program that could not be run. -/
def unrunnableStatus : Fault → Nat
  | .notFound | .notDirectory | .tooManyLinks | .nameTooLong => 127
  | _ => 126

/-- Runs a program in the place of the shell. -/
def runInstead (host : Host) (name place : String) (args : List String) : Run Unit := do
  let m ← get
  match ← host { path := place, name, args, environment := m.environment } with
  | .ok status => Work.exit (α := Unit) status
  | .error f =>
    Builtin.refuseProgram name f
    modify fun m => { m with status := unrunnableStatus f, kept := none }
    throw .exit

/-! ## Section 2: Leaving -/

/-- Brings back descriptors until so many rows of saved ones are left. The first number
    bounds the rows. -/
def bringBackTo : Nat → Nat → Run Unit
  | 0, _ => pure ()
  | fuel + 1, depth => do
    if depth < (← get).saved.length then
      bringBack false
      bringBackTo fuel depth

/-- Brings back all descriptors that were put aside. -/
def bringAllBack : Run Unit := do bringBackTo (← get).saved.length 0

/-- Why a loop is left, or begun anew; none if its commands have come to their end. -/
def leavesLoop (x : Run Unit) : Run (Option Leave) :=
  tryCatch (do
    x
    return none) fun
    | .breaks n => return some (.breaks n)
    | .continues n => return some (.continues n)
    | e => throw e

/-- Runs an action, and another one at its end however it is left. -/
def ensuring {α : Type} (x : Run α) (last : Run Unit) : Run α := do
  let result ← tryCatch x fun e => do
    last
    throw e
  last
  return result

/-- Runs an action as a loop. -/
def asLoop (x : Run Unit) : Run Unit := do
  modify fun m => { m with loops := m.loops + 1 }
  ensuring x (modify fun m => { m with loops := m.loops - 1 })

/-- What a loop does when its commands have been left: whether it goes on. If further
    loops around it are to be left, they are. -/
def goesOn : Option Leave → Run Bool
  | none => return true
  | some (.breaks n) => if n ≤ 1 then return false else throw (.breaks (n - 1))
  | some (.continues n) => if n ≤ 1 then return true else throw (.continues (n - 1))
  | some e => throw e

/-- Ends the shell if a command has failed whose failure nobody looks at, and if the
    shell is to end then. -/
def checkFailure (how : Manner) : Run Unit := do
  let m ← get
  if m.isOn "errexit" ∧ ¬ how.isTested ∧ m.status ≠ 0 then
    set { m with kept := none }
    throw .exit

/-! ## Section 3: The words of a command -/

/-- What a command runs. -/
inductive Target where
  | nothing
  | function (body : Command)
  | builtin (name : String)
  | program (name : String)

/-- The words of a command, when it is known what it runs. -/
structure Prepared where
  /-- All words. -/
  shown : List String := []
  target : Target := .nothing
  args : List String := []
  /-- Whether the shell ends if the command fails. -/
  isSpecial : Bool := false
  /-- Whether its assignments are taken back. -/
  isLocal : Bool := false
  /-- The directories in which its program is looked for, if they are not the usual
      ones. -/
  path : Option String := none

/-- Whether the command is the one that replaces the shell. -/
def Prepared.isReplacing (p : Prepared) : Bool :=
  match p.target with
  | .builtin name => name == "exec"
  | _ => false

/-- Expands words until something comes of one, and returns the words that are left. -/
def expandSome (expand : Term → Run (List String)) :
    List Term → Run (List String × List Term)
  | [] => return ([], [])
  | t :: rest => do
    match ← expand t with
    | [] => expandSome expand rest
    | words => return (words, rest)

/-- The words behind the name and the options of a command that runs another one as if
    there were no functions; none if it does not run any. The result has the words that
    were passed over, the words that follow, those that are not yet expanded, and
    whether the usual directories are wanted. -/
def behindOptions (expand : Term → Run (List String)) :
    Nat → List String → Bool → List String → List Term →
      Run (Option (List String × Bool) × List String × List Term)
  | 0, _, _, ready, terms => return (none, ready, terms)
  | fuel + 1, passed, usual, ready, terms => do
    match ready with
    | [] =>
      match ← expandSome expand terms with
      | ([], _) => return (none, passed, [])
      | (words, rest) => behindOptions expand fuel passed usual words rest
    | a :: more =>
      match a.toList with
      | ['-', '-'] =>
        match more with
        | [] =>
          match ← expandSome expand terms with
          | ([], _) => return (none, passed ++ [a], [])
          | (words, rest) => return (some (passed ++ [a], usual), words, rest)
        | more => return (some (passed ++ [a], usual), more, terms)
      | '-' :: c :: cs =>
        if (c :: cs).all (· = 'p') then behindOptions expand fuel (passed ++ [a]) true more terms
        else return (none, passed ++ ready, terms)
      | _ => return (some (passed, usual), ready, terms)

/-- Expands the words of a command from the one on that says what it runs. -/
def prepareFrom (expand : Bool → Term → Run (List String)) :
    Nat → Prepared → Bool → Bool → List String → List Term → Run Prepared
  | 0, p, _, _, _, _ => return p
  | fuel + 1, p, isFirst, hasFunctions, ready, terms => do
    let m ← get
    let dialect := m.dialect
    let finish (p : Prepared) (isDeclaration : Bool) (ready : List String) (terms : List Term) :
        Run Prepared := do
      let more := (← terms.mapM (expand isDeclaration)).flatten
      return { p with shown := p.shown ++ ready ++ more, args := ready.drop 1 ++ more }
    match ready with
    | [] => return p
    | name :: _ =>
      match if hasFunctions then m.functions.lookup name else none with
      | some body => finish { p with target := .function body, isLocal := true } false ready terms
      | none =>
        if name.contains '/' ∨ ¬ Builtin.isBuiltin dialect name then
          finish { p with target := .program name, isLocal := true } false ready terms
        else
          let p := { p with
            target := .builtin name
            isSpecial := if isFirst then Builtin.isSpecial dialect name else p.isSpecial
            isLocal := if isFirst then !Builtin.isSpecial dialect name &&
                !(dialect == .rich && (declaringNames.contains name || name == "exec"))
              else p.isLocal }
          if name = "builtin" ∧ dialect = .rich then
            match ready.drop 1, terms with
            | [], [] => finish p false ready terms
            | [], terms =>
              let (words, rest) ← expandSome (expand false) terms
              if words.head?.any (Builtin.isBuiltin dialect) then
                prepareFrom expand fuel p false false words rest
              else finish p false (name :: words) rest
            | words, terms =>
              if words.head?.any (Builtin.isBuiltin dialect) then
                prepareFrom expand fuel p false false words terms
              else finish p false ready terms
          else if name = "command" then
            match ← behindOptions (expand false) fuel [name] false (ready.drop 1) terms with
            | (some (passed, usual), ready, terms) =>
              let p := { p with
                shown := p.shown ++ passed
                path := if usual then some Machine.usualPath else p.path }
              prepareFrom expand fuel p false false ready terms
            | (none, ready, terms) => finish p false ready terms
          else finish p (Builtin.isDeclaration dialect name) ready terms

/-- Expands the words of a command. -/
def prepare (expand : Bool → Term → Run (List String)) (terms : List Term) : Run Prepared := do
  let (ready, rest) ← expandSome (expand false) terms
  prepareFrom expand depthLimit {} true true ready rest

/-- Carries out an assignment that is not taken back. The result is how it is shown. -/
def assignPlace (substitute : Substitution) (a : Assignment) : Run String := do
  let .mk name subscript isAdded value := a
  let text ← subscript.mapM (expandText substitute ·)
  let head := name ++ (match text with
    | some s => "[" ++ s ++ "]"
    | none => "") ++ (if isAdded then "+=" else "=")
  match value with
  | [.elements items] =>
    let items ← expandItems substitute items
    storeList name isAdded items
    return head ++ "(" ++ " ".intercalate (items.map fun (_, s) => Builtin.shownText s) ++ ")"
  | value =>
    let s ← expandText substitute value true
    let key ← text.mapM (subscriptOf name)
    store name key isAdded s
    return head ++ Builtin.shownText s

/-- Carries out the assignments in front of a command in order. The result is how they
    are shown. -/
def assignAll (substitute : Substitution) (p : Prepared) (assignments : List Assignment) :
    Run (List String) := do
  let isRich := (← get).dialect = .rich
  assignments.mapM fun
    | .mk name subscript isAdded term => do
      if isRich ∧ ¬ p.isLocal ∧ ¬ p.isReplacing then
        return ← assignPlace substitute (.mk name subscript isAdded term)
      let value ← expandText substitute term true
      if p.isLocal then
        if isRich ∧ ((← get).binding? name).any (·.isFrozen) then
          failKept (name ++ ": readonly variable")
        else shadow name (some value) true
      else
        assign name value
        if p.isReplacing ∧ ¬ p.args.isEmpty then
          modify fun m => match m.binding? name with
            | some v => m.putVariable { v with isExported := true }
            | none => m
      return name ++ "=" ++ (if isRich then Builtin.shownText value else value)
where
  /-- Complains, and goes on. -/
  failKept (message : String) : Run Unit := do
    emit 2 ({ ← get with command := none }.herald ++ message ++ "\n")

/-- The descriptor to which a command is shown: that of complaints, as it was in front of
    the command. -/
def showingDescriptor (hasRow : Bool) (m : Machine) : Nat :=
  match m.saved with
  | row :: _ =>
    match if hasRow then row.find? (·.number == 2) else none with
    | some { copy := some n, .. } => n
    | _ => 2
  | [] => 2

/-- A script whose path is given, or that is found in the directories of programs. -/
def scriptPath (name : String) : Run String := do
  if name.contains '/' then return name
  let m ← get
  let paths := (m.searched.splitOn ":").map fun d => if d.isEmpty then name else d ++ "/" ++ name
  let found ← Work.look fun w => paths.find? (isPlainFile w)
  match found with
  | some path => return path
  | none => fail (name ++ if m.dialect = .rich then ": No such file or directory" else ": not found")

/-- The text of a script. -/
def scriptText (path : String) : Run String := do
  match ← Work.openFile path { reads := true } with
  | .error f => failOpening false path f
  | .ok n =>
    let bytes ← Work.readAll n
    Work.close n
    match bytes with
    | .ok bytes => return Octets.ofBytes bytes
    | .error f => failOpening false path f

/-- The text between a place and a later one in it, or up to the end. -/
def Cursor.textUpTo (start : Cursor) (last : Option Cursor) : String :=
  let rest (c : Cursor) : List Char := (c.layers.getLast?.map (·.rest)).getD []
  let cs := rest start
  String.ofList (cs.take (cs.length - (last.map fun c => (rest c).length).getD 0))

/-- Whether a script ends in a program that may take the place of the shell. -/
def endsPlainly : Script → Bool
  | [] => false
  | [.mk first rest false] =>
    match rest.getLast? with
    | none => isPlain first
    | some (_, p) => isPlain p
  | [_] => false
  | _ :: rest => endsPlainly rest
where
  /-- Whether a pipeline is a simple command and nothing else. -/
  isPlain : Pipeline → Bool
    | .mk false [.simple _ _ _ []] => true
    | _ => false

/-- The text of a pattern of the rich dialect as a regular expression, in which quoted
    characters have no meaning. -/
def expressionText (m : Marked) : List Char :=
  m.flatMap fun (c, quoted) =>
    if quoted ∧ ¬ c.isAlphanum ∧ c ≠ '\n' then ['\\', c] else [c]

/-- Whether a text has a part that a regular expression fits; the parts are noted. None if
    it is no regular expression. -/
def fitsExpression (expression : Marked) (s : String) : Run (Option Bool) := do
  match Tool.Regex.ofText true (expressionText expression) with
  | .error _ => return none
  | .ok r =>
    let text : Tool.Regex.Text := { chars := s.toList.toArray }
    match Tool.Regex.find? r text 0 with
    | none =>
      storeList "BASH_REMATCH" false []
      return some false
    | some fit =>
      let last := (fit.groups.map Prod.fst).foldl max 0
      let groups := (List.range last).map fun i => String.ofList (fit.group text (i + 1))
      let whole := String.ofList (text.between fit.first fit.last)
      storeList "BASH_REMATCH" false ((whole :: groups).map (none, ·))
      return some true

/-- Whether nothing but blanks and newlines is left of a text. -/
def Cursor.isAtEnd (c : Cursor) : Bool :=
  c.layers.all fun l => l.rest.all fun d => d == ' ' || d == '\t' || d == '\n'

/-- A line of the text that is being read. -/
def Cursor.lineAt (c : Cursor) (line : Nat) : String :=
  let rest := (c.layers.getLast?.map (·.rest)).getD []
  let rows := (String.ofList rest).splitOn "\n"
  rows[line - c.line]?.getD ""

/-- Refuses the commands of a text, of which a line is shown. -/
def refuseText {α : Type} (r : Refusal) (line : String) : Run α := do
  let m ← get
  let name := ({ m with command := none }.herald.splitOn ": ").head?.getD m.name
  let lead := name ++ ": " ++ (if m.source.isEmpty ∨ m.source = name then "" else m.source ++ ": ") ++
    "line " ++ numberText r.line ++ ": "
  (r.lead ++ [r.message]).forM fun s => emit 2 (lead ++ s ++ "\n")
  if r.isShown then emit 2 (lead ++ "\x60" ++ line ++ "'\n")
  setStatus 2
  throw .failed

/-- Runs an action while the text that is being read has a name. -/
def inSource {α : Type} (name : String) (action : Run α) : Run α := do
  let before := (← get).source
  modify fun m => { m with source := name }
  ensuring action (modify fun m => { m with source := before })

/-! ## Section 4: Commands -/

mutual

/-- Runs commands in order. -/
def runScript (host : Host) : Nat → Manner → Script → Run Unit
  | 0, _, _ => pure ()
  | _, _, [] => pure ()
  | fuel + 1, how, [item] => runItem host fuel how item
  | fuel + 1, how, item :: rest => do
    runItem host fuel how.inner item
    runScript host fuel how rest

/-- Runs pipelines with conditions between them, maybe in the background. -/
def runItem (host : Host) : Nat → Manner → Item → Run Unit
  | 0, _, _ => pure ()
  | fuel + 1, how, .mk first rest isBackground => do
    if isBackground then runBackground host fuel how first rest
    else runChain host fuel how first rest

/-- Runs pipelines with conditions between them. -/
def runChain (host : Host) :
    Nat → Manner → Pipeline → List (Bool × Pipeline) → Run Unit
  | 0, _, _, _ => pure ()
  | fuel + 1, how, p, [] => runPipeline host fuel how p
  | fuel + 1, how, p, rest => do
    runPipeline host fuel .tested p
    runRest host fuel how rest

/-- Runs the pipelines behind the first one whose condition is fulfilled. -/
def runRest (host : Host) : Nat → Manner → List (Bool × Pipeline) → Run Unit
  | 0, _, _ => pure ()
  | _, _, [] => pure ()
  | fuel + 1, how, (ifSucceeded, p) :: rest => do
    if (decide ((← get).status = 0)) = ifSucceeded then
      runPipeline host fuel (if rest.isEmpty then how else .tested) p
    runRest host fuel how rest

/-- Starts commands in the background. -/
def runBackground (host : Host) :
    Nat → Manner → Pipeline → List (Bool × Pipeline) → Run Unit
  | 0, _, _, _ => pure ()
  | fuel + 1, how, first, rest => do
    if (← get).isOn "noexec" then return
    match first, rest with
    | .mk false (c :: d :: more), [] =>
      startPipeline host fuel { how with isLast := true } true (c :: d :: more)
    | .mk false [.compound line body redirections], [] =>
      modify fun m => { m with line }
      let ready ← expandRedirections (substitute host fuel) redirections
      startAlone host fuel do
        ready.forM (carryOut (substitute host fuel))
        runCompound host fuel { isLast := true } body
    | _, _ => startAlone host fuel (runChain host fuel { isLast := true } first rest)
    setStatus 0

/-- Starts a process in the background. -/
def startAlone (host : Host) : Nat → Run Unit → Run Unit
  | 0, _ => pure ()
  | fuel + 1, body => do
    let id ← Run.fork do
      becomeChild
      becomeBackground true
      runToEnd host fuel body
    modify fun m => { (m.addJob [id]).1 with lastBackground := some id }

/-- Runs a pipeline. -/
def runPipeline (host : Host) : Nat → Manner → Pipeline → Run Unit
  | 0, _, _ => pure ()
  | fuel + 1, how, .mk negated commands => do
    if (← get).isOn "noexec" then return
    if negated then
      let flip : Run Unit := modify fun m => { m with status := if m.status = 0 then 1 else 0 }
      tryCatch (runStages host fuel .tested commands) fun e => do
        match e with
        | .returns | .breaks _ | .continues _ => flip
        | _ => pure ()
        throw e
      noteStatus commands
      flip
    else
      runStages host fuel how commands
      noteStatus commands
where
  /-- Notes the status of a pipeline of one command. -/
  noteStatus (commands : List Command) : Run Unit := do
    if commands.length = 1 then modify fun m => { m with statuses := [m.status] }

/-- Runs the commands of a pipeline. -/
def runStages (host : Host) : Nat → Manner → List Command → Run Unit
  | 0, _, _ => pure ()
  | fuel + 1, how, [c] => runCommand host fuel how c
  | fuel + 1, how, commands => do
    runTraps host fuel
    startPipeline host fuel { how with isLast := true } false commands
    runTraps host fuel
    checkFailure how

/-- Starts the processes of a pipeline, and waits for them unless they are in the
    background. -/
def startPipeline (host : Host) : Nat → Manner → Bool → List Command → Run Unit
  | 0, _, _, _ => pure ()
  | fuel + 1, how, isBackground, commands => do
    let ids ← startStages host fuel how isBackground none commands
    let number ← modifyGet fun m =>
      let (m, number) := m.addJob ids
      (number, m)
    if isBackground then modify fun m => { m with lastBackground := ids.getLast? }
    else finishJob number

/-- Starts the processes of a pipeline, of which each but the first reads from a given
    descriptor. The result has their numbers. -/
def startStages (host : Host) :
    Nat → Manner → Bool → Option Nat → List Command → Run (List Nat)
  | 0, _, _, _, _ => return []
  | _, _, _, _, [] => return []
  | fuel + 1, how, isBackground, source, c :: rest => do
    if let .simple _ _ (name :: _) _ := c then
      if let some cs := plainText? name then
        let name := String.ofList cs
        let m ← get
        if cs.all isNameChar ∧ ¬ Builtin.isBuiltin m.dialect name ∧
            (m.functions.lookup name).isNone then
          let _ ← placeOf name none
    let ends ← if rest.isEmpty then pure none else some <$> liftM Work.pipe
    let id ← Run.fork do
      becomeChild
      if isBackground then becomeBackground source.isNone
      if let some (next, _) := ends then Work.close next
      if let some n := source then moveDescriptor n 0
      if let some (_, drain) := ends then moveDescriptor drain 1
      runToEnd host fuel (runCommand host fuel how c)
    if let some n := source then Work.close n
    if let some (_, drain) := ends then Work.close drain
    return id :: (← startStages host fuel how isBackground (ends.map Prod.fst) rest)

/-- Runs a command. -/
def runCommand (host : Host) : Nat → Manner → Command → Run Unit
  | 0, _, _ => pure ()
  | fuel + 1, how, c => do
    match c with
    | .simple line assignments words redirections =>
      runTraps host fuel
      runSimple host fuel how line assignments words redirections
      runTraps host fuel
      runFailure host fuel how
      checkFailure how
    | .compound line (.subshell script) redirections =>
      runTraps host fuel
      modify fun m => { m with line }
      let ready ← expandRedirections (substitute host fuel) redirections
      let inside (how : Manner) : Run Unit := do
        ready.forM (carryOut (substitute host fuel))
        runScript host fuel how script
      if how.isLast ∧ ¬ (← get).hasTraps then inside how
      else
        let id ← Run.fork do
          becomeChild
          runToEnd host fuel (inside { how with isLast := true })
        finishProcess id
      runTraps host fuel
      checkFailure how
    | .compound line body [] =>
      modify fun m => if m.dialect = .rich then { m with line } else m
      runCompound host fuel how body
    | .compound line body redirections =>
      modify fun m => { m with line }
      redirected (substitute host fuel) redirections (runCompound host fuel how.inner body)
    | .define _ name body =>
      modify fun m => { m with
        status := 0
        functions := (name, body) :: m.functions.filter (·.1 != name) }

/-- Runs a command that is made of commands. -/
def runCompound (host : Host) : Nat → Manner → Compound → Run Unit
  | 0, _, _ => pure ()
  | fuel + 1, how, c => do
    match c with
    | .group script | .subshell script => runScript host fuel how script
    | .conditional arms otherwise => runArms host fuel how arms otherwise
    | .loop condition untilTrue body =>
      asLoop (runLoop host fuel how.inner condition untilTrue body 0)
    | .each name words body =>
      let values ← match words with
        | none => pure (← get).arguments
        | some terms => do
          pure (← terms.mapM (expandFields (substitute host fuel))).flatten
      if values.isEmpty then setStatus 0
      asLoop (runEach host fuel how.inner name values body)
    | .choice word arms =>
      let s ← expandText (substitute host fuel) word
      runChoice host fuel how s.toList arms
    | .condition test =>
      let isMet ← tryCatch (asCommand "[[" (decideTest host fuel test)) fun e =>
        if e = .failed then return false else throw e
      setStatus (if isMet then 0 else 1)
      runFailure host fuel how
      checkFailure how
    | .calculation expression =>
      let cs := (← expandText (substitute host fuel) expression).toList
      let n ← tryCatch (asCommand "((" (calculate cs)) fun e =>
        if e = .failed then return 0 else throw e
      setStatus (if n = 0 then 1 else 0)
      runFailure host fuel how
      checkFailure how
    | .counting start condition step body =>
      let value (term : Term) (usual : Int) : Run Int := do
        let cs := (← expandText (substitute host fuel) term).toList
        if cs.all isSpace then return usual
        asCommand "((" (calculate cs)
      let _ ← value start 0
      asLoop (runCounting host fuel how.inner (value condition 1) (value step 0) body 0)

/-- Decides a condition between brackets. -/
def decideTest (host : Host) : Nat → Test → Run Bool
  | 0, _ => return false
  | fuel + 1, .unary operator word => do
    let s ← expandText (substitute host fuel) word
    let machine ← get
    Work.look fun world => Testing.unary { world, machine } operator s
  | fuel + 1, .binary operator left right => do
    let a ← expandText (substitute host fuel) left
    let isAnyCase := (← get).isOn "nocasematch"
    let lower (s : String) : String := if isAnyCase then s.map Char.toLower else s
    if operator = "=~" then
      let p := Piece.joined (← expandParts (substitute host fuel) {} true right)
      match ← fitsExpression p a with
      | some b => return b
      | none =>
        setStatus 2
        return false
    else if operator = "==" ∨ operator = "=" ∨ operator = "!=" then
      let p ← expandPattern (substitute host fuel) right
      let p := if isAnyCase then p.map fun (c, q) => (c.toLower, q) else p
      let fits := Pattern.accepts p (lower a).toList
      return if operator = "!=" then !fits else fits
    else
      let b ← expandText (substitute host fuel) right
      if Testing.isNumeric operator then
        return Testing.compares operator (← calculate a.toList) (← calculate b.toList)
      let machine ← get
      Work.look fun world => Testing.relates { world, machine } operator a b
  | fuel + 1, .negation t => return !(← decideTest host fuel t)
  | fuel + 1, .both a b => do
    if ← decideTest host fuel a then decideTest host fuel b else return false
  | fuel + 1, .either a b => do
    if ← decideTest host fuel a then return true else decideTest host fuel b

/-- Runs a loop with an expression as its condition and another one behind each turn.
    The last number is the status of its commands so far. -/
def runCounting (host : Host) :
    Nat → Manner → Run Int → Run Int → Script → Nat → Run Unit
  | 0, _, _, _, _, _ => pure ()
  | fuel + 1, how, condition, step, body, status => do
    if (← condition) = 0 then setStatus status
    else
      let leave ← leavesLoop (runScript host fuel how body)
      if ← goesOn leave then
        let _ ← step
        runCounting host fuel how condition step body (← get).status

/-- Runs the arm of a conditional whose condition is fulfilled. -/
def runArms (host : Host) : Nat → Manner → List (Script × Script) → Script → Run Unit
  | 0, _, _, _ => pure ()
  | fuel + 1, how, [], otherwise => do
    if otherwise.isEmpty then setStatus 0 else runScript host fuel how otherwise
  | fuel + 1, how, (condition, body) :: rest, otherwise => do
    runScript host fuel .tested condition
    if (← get).status = 0 then runScript host fuel how body
    else runArms host fuel how rest otherwise

/-- Runs a loop with a condition. The last number is the status of its commands so
    far. -/
def runLoop (host : Host) : Nat → Manner → Script → Bool → Script → Nat → Run Unit
  | 0, _, _, _, _, _ => pure ()
  | fuel + 1, how, condition, untilTrue, body, status => do
    match ← leavesLoop (runScript host fuel .tested condition) with
    | none =>
      if (decide ((← get).status = 0)) = untilTrue then setStatus status
      else
        let leave ← leavesLoop (runScript host fuel how body)
        if ← goesOn leave then
          runLoop host fuel how condition untilTrue body (← get).status
    | leave =>
      setStatus status
      if ← goesOn leave then runLoop host fuel how condition untilTrue body status

/-- Runs a loop through values. -/
def runEach (host : Host) : Nat → Manner → String → List String → Script → Run Unit
  | 0, _, _, _, _ => pure ()
  | _, _, _, [], _ => pure ()
  | fuel + 1, how, name, value :: rest, body => do
    assign name value
    let leave ← leavesLoop (runScript host fuel how body)
    if ← goesOn leave then runEach host fuel how name rest body

/-- Runs the first arm of a choice of which a pattern fits. -/
def runChoice (host : Host) :
    Nat → Manner → List Char → List (List Term × Script × Sequel) → Run Unit
  | 0, _, _, _ => pure ()
  | _, _, _, [] => setStatus 0
  | fuel + 1, how, cs, (patterns, body, sequel) :: rest => do
    let fits ← patterns.anyM fun p => do
      return Pattern.accepts (← expandPattern (substitute host fuel) p) cs
    if fits then runFrom host fuel how cs body sequel rest
    else runChoice host fuel how cs rest

/-- Runs the commands of an arm of a choice, and of those behind it that are run with
    it. -/
def runFrom (host : Host) :
    Nat → Manner → List Char → Script → Sequel → List (List Term × Script × Sequel) → Run Unit
  | 0, _, _, _, _, _ => pure ()
  | fuel + 1, how, cs, body, sequel, rest => do
    let run (how : Manner) : Run Unit :=
      if body.isEmpty then setStatus 0 else runScript host fuel how body
    match sequel, rest with
    | .falls, (_, next, sequel) :: rest =>
      run how.inner
      runFrom host fuel how cs next sequel rest
    | .looks, rest =>
      run how.inner
      let status := (← get).status
      runChoice host fuel how cs rest
      if rest.isEmpty then setStatus status
    | _, _ => run how

/-- Runs a simple command. -/
def runSimple (host : Host) :
    Nat → Manner → Nat → List Assignment → List Term → List Redirection → Run Unit
  | 0, _, _, _, _, _ => pure ()
  | fuel + 1, how, line, assignments, words, redirections => do
    modify fun m => { m with line, substituted := 0 }
    let channels := (← get).channels
    runCondition host fuel Builtin.Rich.commandCondition
    let p ← prepare (expandArgument (substitute host fuel)) words
    let body : Run Unit := do
      let values ← assignAll (substitute host fuel) p assignments
      let row := !redirections.isEmpty
      if (← get).dialect = .rich then
        values.forM fun s => showCommand host fuel row [s]
        if ¬ p.shown.isEmpty then showCommand host fuel row (p.shown.map Builtin.shownWord)
      else showCommand host fuel row (values ++ p.shown)
      runTarget host fuel how p
    let redirecting : Run Unit := do
      if redirections.isEmpty then body
      else
        let depth := (← get).saved.length
        let ready ← expandRedirections (substitute host fuel) redirections
        let isDone ← redirect (substitute host fuel) ready
        tryCatch (do
          if isDone then body
          else
            setStatus (if (← get).dialect = .rich then 1 else 2)
            if p.isSpecial then throw .failed) fun e => do
          match e with
          | .exit | .failed => bringBackTo depthLimit depth
          | _ => bringBack p.isReplacing
          throw e
        bringBack p.isReplacing
    if p.isLocal then inScope redirecting else redirecting
    let open_ := (← get).channels
    if channels.length < open_.length then
      (open_.take (open_.length - channels.length)).forM fun n => do Work.close n
      modify fun m => { m with channels }

/-- Shows a command before it is run, if that is wanted. -/
def showCommand (host : Host) : Nat → Bool → List String → Run Unit
  | 0, _, _ => pure ()
  | fuel + 1, hasRow, words => do
    let m ← get
    if m.isOn "xtrace" then
      let sign := (m.valueOf? "PS4").getD ""
      let lead ← match documentTerm depthLimit m.dialect sign m.aliases m.nextDocument with
        | .ok term => expandDocument (substitute host fuel) term
        | .error _ => pure sign
      emit (showingDescriptor hasRow m) (lead ++ " ".intercalate words ++ "\n")

/-- Runs what a command runs. -/
def runTarget (host : Host) : Nat → Manner → Prepared → Run Unit
  | 0, _, _ => pure ()
  | fuel + 1, how, p => do
    match p.target with
    | .nothing => modify fun m => { m with status := m.substituted }
    | .function body =>
      modify fun m => { m with callers := p.shown.head?.getD "" :: m.callers }
      ensuring (runFunction host fuel how.inner body p.args)
        (modify fun m => { m with callers := m.callers.drop 1 })
    | .builtin name =>
      let depth := (← get).saved.length
      tryCatch (Builtin.runAs name (runBuiltin host fuel how.inner name p.args)) fun e =>
        if e = .failed ∧ ¬ p.isSpecial then bringBackTo depthLimit depth else throw e
    | .program name =>
      match ← placeOf name p.path with
      | .error f =>
        Builtin.refuseProgram name f
        setStatus (if (← get).dialect = .rich then unrunnableStatus f else 127)
      | .ok place =>
        if how.isLast ∧ ¬ (← get).hasTraps then runInstead host name place p.args
        else
          let id ← Run.fork do
            becomeChild
            tryCatch (runInstead host name place p.args) fun _ => pure ()
          finishProcess id

/-- Runs a function. -/
def runFunction (host : Host) : Nat → Manner → Command → List String → Run Unit
  | 0, _, _, _ => pure ()
  | fuel + 1, how, body, args => do
    let m ← get
    if functionLimit ≤ m.depth ∧ m.dialect = .plain then
      fail ("Maximum function recursion depth (" ++ numberText functionLimit ++ ") reached")
    set { m with
      arguments := args, loops := 0, depth := m.depth + 1, optionIndex := 1, optionOffset := 0 }
    ensuring
      (tryCatch (runCommand host fuel how body) fun e =>
        if e = .returns then pure () else throw e)
      (modify fun after => { after with
        arguments := m.arguments
        loops := m.loops
        depth := m.depth
        optionIndex := m.optionIndex
        optionOffset := m.optionOffset })

/-- Runs a built-in command. -/
def runBuiltin (host : Host) : Nat → Manner → String → List String → Run Unit
  | 0, _, _, _ => pure ()
  | fuel + 1, how, name, args => do
    match name with
    | "eval" =>
      if !(← inSource "eval" (runText host fuel how (" ".intercalate args))) then setStatus 0
    | "exec" =>
      match args with
      | [] => setStatus 0
      | program :: rest =>
        match ← Builtin.locate program (← get).searched with
        | .ok place => runInstead host program place rest
        | .error f =>
          if (← get).dialect = .rich ∧ f = .notFound ∧ ¬ program.contains '/' then
            complain (program ++ ": not found")
          else Builtin.refuseProgram program f
          modify fun m => { m with status := unrunnableStatus f, kept := none }
          throw .exit
    | "." | "source" =>
      let m ← get
      match (← Builtin.splitOptions "" args).2, m.dialect with
      | [], .plain => setStatus 0
      | [], .rich =>
        complain "filename argument required"
        Builtin.showUsage
      | script :: _, .plain =>
        let path ← scriptPath script
        let text ← scriptText path
        asCommand path do
          let isRun ← tryCatch (runFile host fuel text) fun e =>
            if e = .returns then return true else throw e
          if !isRun then setStatus 0
      | script :: arguments, .rich =>
        let path ← if m.command = some "." ∨ m.command = some "source" then
            modify fun m => { m with command := none }
            scriptPath script
          else scriptPath script
        let text ← scriptText path
        modify fun m => { m with
          scripts := m.scripts + 1
          arguments := if arguments.isEmpty then m.arguments else arguments }
        ensuring (inSource path do
          let isRun ← tryCatch (runFile host fuel text) fun e =>
            if e = .returns then return true else throw e
          if !isRun then setStatus 0)
          (modify fun after => { after with
            scripts := m.scripts
            arguments := if arguments.isEmpty then after.arguments else m.arguments })
    | "builtin" =>
      match args with
      | [] => setStatus 0
      | name :: _ => refuse (name ++ ": not a shell builtin") 1
    | "command" => Builtin.command args
    | "type" => Builtin.type args
    | name =>
      match Builtin.find? (← get).dialect name with
      | some action => action args
      | none => pure ()

/-- What commands print, without the newlines at its end. Their status is noted. If they
    are run for a pipe, its path is the result. -/
def substitute (host : Host) : Nat → Purpose → Script → Run String
  | 0, _, _ => return ""
  | fuel + 1, .source, script => openChannel host fuel true script
  | fuel + 1, .drain, script => openChannel host fuel false script
  | fuel + 1, .output, script => do
    if script.isEmpty then return ""
    match (← get).dialect, script with
    | .rich, [.mk (.mk false [.simple _ [] [] [.file 0 .read target]]) [] false] =>
      let text ← scriptText (← expandPath (substitute host fuel) target)
      setSubstituted 0
      return withoutEnd text.toList
    | _, _ => pure ()
    let (source, drain) ← Work.pipe
    let id ← Run.fork do
      becomeChild
      Work.close source
      moveDescriptor drain 1
      runToEnd host fuel (runScript host fuel { isLast := true } script)
    Work.close drain
    let bytes ← Work.readAll source
    Work.close source
    let before := (← get).status
    finishProcess id
    modify fun m => { m with status := before, substituted := m.status }
    return withoutEnd <| match bytes with
      | .ok bytes => (Octets.ofBytes bytes).toList.filter (· ≠ '\x00')
      | .error _ => []
where
  /-- A text without the newlines at its end. -/
  withoutEnd (cs : List Char) : String := String.ofList (cs.reverse.dropWhile (· = '\n')).reverse
  /-- Notes the status of a substitution. -/
  setSubstituted (n : Nat) : Run Unit := modify fun m => { m with substituted := n }

/-- Runs commands beside the present one, with a pipe from them, or to them. The result is
    its path. -/
def openChannel (host : Host) : Nat → Bool → Script → Run String
  | 0, _, _ => return ""
  | fuel + 1, isRead, script => do
    let (source, drain) ← Work.pipe
    let (own, other) := if isRead then (source, drain) else (drain, source)
    let id ← Run.fork do
      becomeChild
      Work.close own
      moveDescriptor other (if isRead then 1 else 0)
      runToEnd host fuel (runScript host fuel { isLast := true } script)
    Work.close other
    let m ← get
    let number := 63 - m.channels.length
    moveDescriptor own number
    set { m with channels := number :: m.channels, lastBackground := some id }
    return "/dev/fd/" ++ numberText number

/-- Runs the command for a condition that is no signal, if there is one. -/
def runCondition (host : Host) : Nat → Nat → Run Unit
  | 0, _ => pure ()
  | fuel + 1, n => do
    let m ← get
    match m.traps.lookup n with
    | none => pure ()
    | some text =>
      if m.depth ≠ 0 then return
      set { m with traps := m.traps.filter (·.1 != n) }
      let _ ← runText host fuel {} text
      modify fun after => { after with
        status := m.status
        traps := if (after.traps.lookup n).isSome then after.traps else (n, text) :: after.traps }

/-- Runs the command for a failure, if there was one that nobody looks at. -/
def runFailure (host : Host) : Nat → Manner → Run Unit
  | 0, _ => pure ()
  | fuel + 1, how => do
    if (← get).status ≠ 0 ∧ ¬ how.isTested then
      runCondition host fuel Builtin.Rich.failureCondition

/-- Runs the commands of a text, line by line. The result is whether there were any. -/
def runText (host : Host) : Nat → Manner → String → Run Bool
  | 0, _, _ => return false
  | fuel + 1, how, text => do
    runLines host fuel how false false (.start (← get).dialect text [] 1 0)

/-- Runs the commands of a file, line by line. The result is whether there were any. -/
def runFile (host : Host) : Nat → String → Run Bool
  | 0, _ => return false
  | fuel + 1, text => do
    runLines host fuel {} true false (.start (← get).dialect text [] 1 0)

/-- Runs the commands of the lines of a text from a place on. The lines of a file are
    shown if that is wanted. The result is whether there were any commands, here or
    before. -/
def runLines (host : Host) : Nat → Manner → Bool → Bool → Cursor → Run Bool
  | 0, _, _, isRun, _ => return isRun
  | fuel + 1, how, isFile, isRun, cursor => do
    let m ← get
    let cursor := { cursor with
      aliases := if m.dialect = .rich ∧ ¬ m.isOn "expand_aliases" then [] else m.aliases
      documents := []
      nextDocument := m.nextDocument
      warnings := [] }
    let result := (readLine depthLimit).run cursor
    if isFile ∧ m.isOn "verbose" then
      emit 2 (cursor.textUpTo (result.toOption.map Prod.snd))
    match result with
    | .error r =>
      set { m with line := r.line }
      match m.dialect with
      | .plain => fail r.message
      | .rich => refuseText r (cursor.lineAt r.line)
    | .ok (none, _) => return isRun
    | .ok (some script, after) =>
      set { m with
        documents := after.documents ++ m.documents, nextDocument := after.nextDocument }
      match m.dialect with
      | .plain => runScript host fuel how.inner script
      | .rich =>
        after.warnings.reverse.forM fun (line, s) =>
          emit 2 ({ m with line, command := none }.herald ++ s ++ "\n")
        let isLast := how.isLast && endsPlainly script && after.isAtEnd
        tryCatch (runScript host fuel (if isLast then how else how.inner) script) fun e =>
          if e = .failed ∨ e = .discarded then
            modify fun m => { m with status := if m.status = 0 then 1 else m.status }
          else throw e
      runLines host fuel how isFile (isRun || !script.isEmpty) after

/-- Runs the commands for the signals that have come in. The status stays as it was. -/
def runTraps (host : Host) : Nat → Run Unit
  | 0 => pure ()
  | fuel + 1 => do
    let next ← Work.act fun w =>
      match w.self.pending.min? with
      | some n => (some n, w.changeSelf fun p => { p with pending := p.pending.filter (· != n) })
      | none => (none, w)
    match next with
    | none => pure ()
    | some n =>
      let m ← get
      let status := m.kept.getD m.status
      match m.traps.lookup n with
      | none => pure ()
      | some text =>
        set { m with kept := some status }
        let finish : Run Unit := modify fun after => { after with status, kept := m.kept }
        tryCatch (do
          let _ ← runText host fuel {} text) fun e => do
          match e with
          | .breaks _ | .continues _ => finish
          | .returns => modify fun after => { after with kept := m.kept }
          | _ => pure ()
          throw e
        finish
      runTraps host fuel

/-- Runs an action up to the end of the shell, which may have a command for it. -/
def runToEnd (host : Host) : Nat → Run Unit → Run Unit
  | 0, _ => pure ()
  | fuel + 1, action => do
    let settle (e : Leave) : Run Unit :=
      match e with
      | .exit => modify fun m => { m with status := m.kept.getD m.status }
      | _ => pure ()
    tryCatch action settle
    bringAllBack
    let m ← get
    set { m with kept := none }
    match m.traps.lookup 0 with
    | none => pure ()
    | some text =>
      set { m with traps := m.traps.filter (·.1 != 0), kept := some m.status }
      let isLeft ← tryCatch (do
        let _ ← runText host fuel {} text
        return false) fun
        | .exit => do
          settle .exit
          return true
        | .failed => return true
        | _ => return false
      if !isLeft then setStatus m.status
      bringAllBack

end

end SimSweep.Shell
