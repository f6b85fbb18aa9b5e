import SimSweep.Shell.Fraction
import SimSweep.Tool.Lines

/-! # Tools that run other programs

    They change something about the process, or wait for some time, and go on as another
    program, or start one again and again.
-/

namespace SimSweep.Tool

open Kernel

/-! ## Section 1: Running a program -/

/-- The directories in which programs are looked for if the environment names none. -/
def usualDirectories : String := "/bin:/usr/bin"

/-- The paths under which a program is looked for. -/
def placesOf (environment : List (String × String)) (name : String) : List String :=
  if name.contains '/' then [name]
  else (((environment.lookup "PATH").getD usualDirectories).splitOn ":").map fun d =>
    if d.isEmpty then name else d ++ "/" ++ name

/-- Runs a program in this process from the first of some places where it can be. The
    fault is what was wrong with the other places. -/
def runFrom (host : Host) (call : Call) : List String → Fault → Work (Except Fault Nat)
  | [], f => return .error f
  | path :: rest, f => do
    match ← host { call with path } with
    | .ok n => return .ok n
    | .error .notExecutable =>
      host { call with path := "/bin/sh", name := "/bin/sh", args := path :: call.args }
    | .error .notFound | .error .notDirectory => runFrom host call rest f
    | .error .denied => runFrom host call rest .denied
    | .error g => return .error g

/-- Runs a program in this process. -/
def runProgram (host : Host) (environment : List (String × String)) (name : String)
    (args : List String) : Work (Except Fault Nat) :=
  runFrom host { path := name, name, args, environment } (placesOf environment name) .notFound

/-- The status that stands for a program that could not be run. -/
def unrunStatus (f : Fault) : Nat := if f = .notFound then 127 else 126

/-- Goes on as another program. -/
def goOnAs (host : Host) (environment : List (String × String)) (lead : String) :
    List String → Deed Nat
  | [] => return 0
  | name :: args => do
    match ← runProgram host environment name args with
    | .ok n => return n
    | .error f =>
      complain (lead ++ quoteName name ++ ": " ++ f.message)
      return unrunStatus f

/-! ## Section 2: The environment -/

/-- Splits an argument that holds a whole command. -/
def splitCommand (s : String) : List String :=
  (s.splitToList fun c => c == ' ' || c == '\t').filter fun w => !w.isEmpty

/-- The arguments in which an option that holds a whole command is replaced by it. -/
def withoutSplit : List String → List String
  | "-S" :: s :: rest => splitCommand s ++ rest
  | a :: rest =>
    if a.startsWith "-S" then splitCommand (String.ofList (a.toList.drop 2)) ++ rest
    else if a.startsWith "-" ∧ ¬ a.startsWith "--" then a :: withoutSplit rest
    else a :: rest
  | [] => []

/-- Shows the environment, or runs a program in a changed one. -/
def env (host : Host) : Deed Nat := do
  let call ← read
  let g ← takeOptions
    [{ letter := 'i', name := "ignore-environment" }, { letter := '0', name := "null" },
     { letter := 'u', name := "unset", takes := .value },
     { letter := 'C', name := "chdir", takes := .value }, { letter := 'v', name := "debug" }]
    (withoutSplit call.args) 125 true
  let (clears, operands) := match g.operands with
    | "-" :: rest => (true, rest)
    | rest => (g.has 'i', rest)
  let start := if clears then [] else call.environment
  let start := start.filter fun (name, _) => !(g.values 'u').contains name
  let assignments := operands.takeWhile fun a => a.contains '='
  let environment := assignments.foldl (fun e a =>
    let name := String.ofList (a.toList.takeWhile (· ≠ '='))
    let value := String.ofList (a.toList.drop (name.length + 1))
    if e.any (·.1 == name) then e.map fun (n, v) => if n == name then (n, value) else (n, v)
    else e ++ [(name, value)]) start
  if let some d := g.value? 'C' then
    let fault ← Work.act fun w =>
      match w.find d with
      | .ok id =>
        if (w.files.contentOf id).isDirectory then
          (none, w.changeSelf fun p => { p with directory := id })
        else (some .notDirectory, w)
      | .error f => (some f, w)
    if let some f := fault then
      abort ("cannot change directory to " ++ quoteName d ++ ": " ++ f.message) 125
  match operands.drop assignments.length with
  | [] =>
    let last := if g.has '0' then "\x00" else "\n"
    put (String.join (environment.map fun (name, value) => name ++ "=" ++ value ++ last))
    return 0
  | command => goOnAs host environment "" command

/-- Shows values of the environment. -/
def printenv : Deed Nat := do
  let g ← options [{ letter := '0', name := "null" }] 2 true
  let environment := (← read).environment
  let last := if g.has '0' then "\x00" else "\n"
  if g.operands.isEmpty then
    put (String.join (environment.map fun (name, value) => name ++ "=" ++ value ++ last))
    return 0
  else
    let results ← g.operands.mapM fun name => do
      match environment.lookup name with
      | some value =>
        put (value ++ last)
        return true
      | none => return false
    return if results.all id then 0 else 1

/-! ## Section 3: Niceness and signals -/

/-- Runs a program with less right to the processor, or shows how much that is. -/
def nice (host : Host) : Deed Nat := do
  let call ← read
  let args := match call.args with
    | a :: rest =>
      match a.toList with
      | '-' :: c :: cs =>
        let digits := if c = '-' ∨ c = '+' then cs else c :: cs
        if ¬ digits.isEmpty ∧ digits.all Char.isDigit then
          "-n" :: String.ofList (if c = '+' then cs else c :: cs) :: rest
        else call.args
      | _ => call.args
    | [] => []
  let g ← takeOptions [{ letter := 'n', name := "adjustment", takes := .value }] args 125 true
  let change : Int ← match g.value? 'n' with
    | none => pure 10
    | some s =>
      let (negative, cs) := Decimal.sign s.toList
      if cs.isEmpty ∨ ¬ cs.all Char.isDigit then
        abort ("invalid adjustment " ++ quote s) 125
      else pure (if negative then -(Decimal.valueOf cs : Int) else Decimal.valueOf cs)
  let present ← Work.look fun w => w.self.niceness
  match g.operands with
  | [] =>
    if g.options.isEmpty then
      put (toString present ++ "\n")
      return 0
    else misuse "a command must be given with an adjustment" 125
  | command =>
    Work.change fun w => w.changeSelf fun p =>
      { p with niceness := max (-20) (min 19 (p.niceness + change)) }
    goOnAs host call.environment "" command

/-- Runs a program that takes no notice when the terminal is closed. -/
def nohup (host : Host) : Deed Nat := do
  let call ← read
  let g ← takeOptions [] call.args 125 true
  match g.operands with
  | [] => misuse "missing operand" 125
  | command =>
    Work.change fun w => w.changeSelf fun p => { p with ignored := 1 :: p.ignored }
    goOnAs host call.environment "failed to run command " command

/-- A number of microseconds that is written in seconds, or in another unit that is named
    by a letter. -/
def interval? (s : String) : Option Nat :=
  match Shell.Fraction.leading? s.toList with
  | none => none
  | some (x, rest) =>
    let unit : Option Nat := match rest with
      | [] | ['s'] => some 1
      | ['m'] => some 60
      | ['h'] => some 3600
      | ['d'] => some 86400
      | _ => none
    match x.value, unit with
    | .finite false k, some n =>
      some (Binary64.steps k.val * 1000000 * n / Binary64.scale)
    | .infinite false, some _ => some 1000000000000000000
    | _, _ => none

/-- Waits for some time. -/
def sleep : Deed Nat := do
  let g ← options []
  if g.operands.isEmpty then misuse "missing operand"
  let times ← g.operands.mapM fun s => do
    match interval? s with
    | some n => return n
    | none =>
      complain ("invalid time interval " ++ quote s)
      hint
  Work.sleep (times.foldl (· + ·) 0)
  return 0

/-- The signal of a name, with or without the usual letters in front, or of a number. -/
def signalOf? (s : String) : Option Signal :=
  let upper := s.map Char.toUpper
  match Signal.ofText? upper with
  | some signal => some signal
  | none =>
    if upper.startsWith "SIG" then Signal.ofText? (String.ofList (upper.toList.drop 3)) else none

/-- The processes that come from a process: its children, their children, and so on. The
    number bounds the generations. -/
def offspring (w : World) : Nat → Nat → List Nat
  | 0, _ => []
  | fuel + 1, id =>
    let children := (w.processes.filter fun p => p.parent == id).map (·.id)
    children ++ children.flatMap (offspring w fuel)

/-- Sends a signal to a process and to what comes from it. -/
def signalAll (id : Nat) (s : Signal) : Work Unit :=
  Work.change fun w => (id :: offspring w 100 id).foldl (fun w n =>
    if w.isAlive n then w.signal n s else w) w

/-- How the wait for a child ended: with its end, or because the time was over. -/
def waitUntil (child moment : Nat) : Work (Option Exit) := do
  let self ← Work.self
  let isEnded (w : World) : Bool :=
    (Work.endedChild? w self (· == child)).isSome || (w.process? child).isNone
  Work.await isEnded (some moment)
  Work.act fun w =>
    match Work.endedChild? w self (· == child) with
    | some (id, exit) => (some exit, w.forget id)
    | none => if (w.process? child).isNone then (some (.status 0), w) else (none, w)

/-- Runs a program, and ends it after some time. -/
def timeout (host : Host) : Deed Nat := do
  let call ← read
  let g ← takeOptions
    [{ letter := 'f', name := "foreground" }, { letter := 'p', name := "preserve-status" },
     { letter := 'k', name := "kill-after", takes := .value },
     { letter := 's', name := "signal", takes := .value }, { letter := 'v', name := "verbose" }]
    call.args 125 true
  let time (s : String) : Deed Nat := do
    match interval? s with
    | some n => return n
    | none => misuse ("invalid time interval " ++ quote s) 125
  let killAfter ← (g.value? 'k').mapM time
  let signal ← match g.value? 's' with
    | none => pure (signalOf? "TERM")
    | some s =>
      match signalOf? s with
      | some signal => pure (some signal)
      | none => misuse (quote s ++ ": invalid signal") 125
  match g.operands with
  | [] | [_] => hint 125
  | duration :: name :: args =>
    let limit ← time duration
    let signal := signal.getD { number := 15, name := "TERM", description := "Terminated" }
    let child ← Work.fork do
      match ← runProgram host call.environment name args with
      | .ok n => return n
      | .error f =>
        let _ ← Work.writeText 2
          (call.name ++ ": failed to run command " ++ quoteName name ++ ": " ++ f.message ++ "\n")
        return unrunStatus f
    let started ← Work.moment
    let first ← if limit = 0 then some <$> liftM (Work.waitFor child)
      else liftM (waitUntil child (started + limit))
    let announce (s : Signal) : Deed Unit := do
      if g.has 'v' then
        complain ("sending signal " ++ s.name ++ " to command " ++ quoteName name)
    match first with
    | some exit => finish false (g.has 'p') exit
    | none =>
      announce signal
      signalAll child signal
      let second ← match killAfter with
        | none => some <$> liftM (Work.waitFor child)
        | some 0 => some <$> liftM (Work.waitFor child)
        | some n => do
          let now ← Work.moment
          liftM (waitUntil child (now + n))
      match second with
      | some exit =>
        if signal.number = 9 ∧ ¬ g.has 'f' then die signal
        finish true (g.has 'p') exit
      | none =>
        let kill : Signal := { number := 9, name := "KILL", description := "Killed" }
        announce kill
        signalAll child kill
        let _ ← Work.waitFor child
        if ¬ g.has 'f' then die kill
        return 137
where
  /-- Ends this process by a signal. -/
  die (s : Signal) : Deed Unit := do
    Work.change fun w =>
      { w.changeSelf fun p => { p with ignored := [], caught := [] } with stirred := true }
    Work.signal (← Work.self) s
  /-- The status after the end of the program. -/
  finish (isTimedOut keeps : Bool) (exit : Exit) : Deed Nat := do
    match exit with
    | .status n => return if isTimedOut ∧ ¬ keeps then 124 else n
    | .signal n =>
      if isTimedOut then return if keeps ∨ n = 9 then 128 + n else 124
      else
        if let some s := Signal.ofNumber? n then die s
        return 128 + n

/-! ## Section 4: Building commands from the input -/

/-- Splits the input at blanks and line ends; quotes and backslashes keep them. The items
    know whether they end a line. The number bounds the characters. -/
def itemsOf : Nat → Option (List Char) → List Char → Except String (List (List Char × Bool))
  | 0, _, _ => .ok []
  | _, item, [] => .ok (match item with
    | some cs => [(cs.reverse, true)]
    | none => [])
  | fuel + 1, item, c :: rest =>
    let close (endsLine : Bool) : Except String (List (List Char × Bool)) := do
      let more ← itemsOf fuel none rest
      return match item with
        | some cs => (cs.reverse, endsLine) :: more
        | none => more
    match c with
    | '\n' => close true
    | '\\' =>
      match rest with
      | d :: rest => itemsOf fuel (some (d :: item.getD [])) rest
      | [] => itemsOf fuel item []
    | '\'' | '"' =>
      let inner := rest.takeWhile fun d => d ≠ c ∧ d ≠ '\n'
      match rest.drop inner.length with
      | d :: after =>
        if d = c then itemsOf fuel (some (inner.reverse ++ item.getD [])) after
        else .error (unmatched c)
      | [] => .error (unmatched c)
    | c =>
      if c = ' ' ∨ c = '\t' then close false
      else itemsOf fuel (some (c :: item.getD [])) rest
where
  /-- What is said of a quote without a partner. -/
  unmatched (c : Char) : String :=
    "unmatched " ++ (if c = '"' then "double" else "single") ++
      " quote; by default quotes are special to xargs unless you use the -0 option"

/-- Replaces a text in another one. The number bounds the characters. -/
def replaceIn (mark by_ : List Char) : Nat → List Char → List Char
  | 0, cs => cs
  | _, [] => []
  | fuel + 1, c :: cs =>
    if ¬ mark.isEmpty ∧ mark.isPrefixOf (c :: cs) then
      by_ ++ replaceIn mark by_ fuel ((c :: cs).drop mark.length)
    else c :: replaceIn mark by_ fuel cs

/-- Groups of so many items. The number bounds the items. -/
def groupsOf {α : Type} (size : Nat) : Nat → List α → List (List α)
  | 0, _ => []
  | _, [] => []
  | fuel + 1, items => items.take size :: groupsOf size fuel (items.drop size)

/-- Groups of items from so many lines. -/
def lineGroups (size : Nat) (items : List (List Char × Bool)) : List (List (List Char)) :=
  let (groups, current, _) := items.foldl (fun (groups, current, lines) (item, endsLine) =>
    let current := current ++ [item]
    let lines := if endsLine then lines + 1 else lines
    if lines = size then (groups ++ [current], [], 0) else (groups, current, lines)) ([], [], 0)
  if current.isEmpty then groups else groups ++ [current]

/-- Makes a pipe that is closed when the process goes on as another program: the
    descriptor to read from and the one to write to. -/
def privatePipe : Work (Nat × Nat) := do
  let (source, drain) ← Work.pipe
  Work.change fun w => w.changeSelf fun p => { p with
    descriptors := p.descriptors.map fun d =>
      if d.number == source || d.number == drain then { d with isPrivate := true } else d }
  return (source, drain)

/-- Runs a program again and again with arguments from the input. -/
def xargs (host : Host) : Deed Nat := do
  let call ← read
  let g ← takeOptions
    [{ letter := '0', name := "null" }, { letter := 'd', name := "delimiter", takes := .value },
     { letter := 'n', name := "max-args", takes := .value },
     { letter := 'L', name := "max-lines", takes := .value },
     { letter := 'l', takes := .maybe },
     { letter := 'I', name := "replace", takes := .value }, { letter := 'i', takes := .maybe },
     { letter := 'P', name := "max-procs", takes := .value },
     { letter := 's', name := "max-chars", takes := .value },
     { letter := 'a', name := "arg-file", takes := .value },
     { letter := 'r', name := "no-run-if-empty" }, { letter := 't', name := "verbose" },
     { letter := 'x', name := "exit" }, { letter := 'p', name := "interactive" },
     { letter := 'E', takes := .value }] call.args 1 true
  let number (letter : Char) (least : Nat) : Deed (Option Nat) := do
    match g.value? letter with
    | none => return none
    | some s =>
      if s.isEmpty ∨ ¬ s.toList.all Char.isDigit then
        misuse ("invalid number \"" ++ s ++ "\" for -" ++ String.singleton letter ++ " option")
      let n := Decimal.valueOf s.toList
      if n < least then
        misuse ("value " ++ s ++ " for -" ++ String.singleton letter ++ " option should be >= " ++
          digits least)
      return some n
  let most ← number 'n' 1
  let mostLines ← number 'L' 1
  let _ ← number 'P' 0
  let mark := match g.last? "Ii" with
    | some 'i' => some (match g.value? 'i' with
      | some "" | none => "\x7b\x7d"
      | some s => s)
    | some _ => g.value? 'I'
    | none => none
  let cs ← match ← charsOf ((g.value? 'a').getD "-") with
    | .ok cs => pure cs
    | .error f => abort ("Cannot open input file " ++ quote ((g.value? 'a').getD "") ++ ": " ++
        f.message)
  let separator : Option Char :=
    if g.has '0' then some '\x00'
    else match g.value? 'd' with
      | some s => match s.toList with
        | ['\\', 'n'] => some '\n'
        | ['\\', 't'] => some '\t'
        | ['\\', '0'] => some '\x00'
        | c :: _ => some c
        | [] => none
      | none => none
  let flaw (message : String) : Deed (List (List Char × Bool)) := abort message
  let items ← match separator with
    | some c =>
      let parts := splitAt c cs
      let parts := if parts.getLast? == some [] then parts.dropLast else parts
      pure (parts.map (·, true))
    | none =>
      if mark.isSome then
        let lines := ((linesOf cs).map fun l => l.dropWhile fun c => c == ' ' || c == '\t').filter
          fun l => !l.isEmpty
        let parts ← lines.mapM fun l => do
          match itemsOf (l.length + 2) none (l.map fun c => if c == ' ' then '\x01' else c) with
          | .ok parts =>
            return ((parts.flatMap Prod.fst).map fun c => if c == '\x01' then ' ' else c, true)
          | .error s =>
            let _ ← flaw s
            return ([], true)
        pure parts
      else match itemsOf (cs.length + 2) none cs with
        | .ok items => pure items
        | .error s => flaw s
  let command := if g.operands.isEmpty then ["echo"] else g.operands
  let argumentLists : List (List String) :=
    match mark with
    | some m => items.map fun (item, _) => command.map fun word =>
        String.ofList (replaceIn m.toList item (word.length + 1) word.toList)
    | none =>
      let groups := match most, mostLines with
        | some n, _ => groupsOf n items.length (items.map Prod.fst)
        | none, some n => lineGroups n items
        | none, none => if items.isEmpty then [] else [items.map Prod.fst]
      let groups := if groups.isEmpty ∧ ¬ g.has 'r' then [[]] else groups
      groups.map fun group => command ++ group.map String.ofList
  let status ← argumentLists.foldlM (fun (status : Nat) words => do
    if g.has 't' then say (" ".intercalate words ++ "\n")
    let name := words.head?.getD ""
    let (source, drain) ← privatePipe
    let child ← Work.fork do
      match ← runProgram host call.environment name words.tail with
      | .ok n => return n
      | .error f =>
        let _ ← Work.writeText 2 (call.name ++ ": " ++ name ++ ": " ++ f.message ++ "\n")
        let _ ← Work.writeText drain "!"
        return unrunStatus f
    Work.close drain
    let exit ← Work.waitFor child
    let news ← Work.read source 1
    Work.close source
    let isUnrun := match news with
      | .ok bytes => !bytes.isEmpty
      | .error _ => false
    match exit with
    | .status 0 => return status
    | .status 255 => abort (name ++ ": exited with status 255; aborting") 124
    | .status n => if isUnrun then stop n else return 123
    | .signal n => abort (name ++ ": terminated by signal " ++ digits n) 125) 0
  return status

end SimSweep.Tool
