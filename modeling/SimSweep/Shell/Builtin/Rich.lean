import SimSweep.Shell.Builtin.Jobs
import SimSweep.Shell.Builtin.Marking
import SimSweep.Shell.Builtin.Places
import SimSweep.Shell.Testing

/-! # Built-in commands of the rich dialect

    What the rich dialect does in another way than the plain one, or what only it has.
    Where a command is called wrongly, it fails, and the shell goes on.
-/

namespace SimSweep.Shell.Builtin.Rich

open Kernel

/-- Says that an argument is no number. -/
def refuseNumber (s : String) (status : Nat) : Run Unit :=
  refuse (s ++ ": numeric argument required") status

/-- Leaves the commands of the line because a command has too many arguments. -/
def tooMany {α : Type} : Run α := do
  refuse "too many arguments" 1
  throw .discarded

/-! ## Section 1: Leaving -/

/-- Ends the shell. -/
def exit (args : List String) : Run Unit := do
  match args with
  | [] => throw .exit
  | s :: rest =>
    match Numeral.integer? s with
    | none =>
      refuseNumber s 2
      modify fun m => { m with kept := none }
      throw .exit
    | some i =>
      if ¬ rest.isEmpty then tooMany
      modify fun m => { m with kept := some (i.emod 256).toNat }
      throw .exit

/-- Leaves a function or a script. -/
def return_ (args : List String) : Run Unit := do
  let m ← get
  if m.depth = 0 ∧ m.scripts = 0 then
    refuse "can only \x60return' from a function or sourced script" 2
  else
    match args with
    | [] => throw .returns
    | s :: rest =>
      match Numeral.integer? s with
      | none =>
        refuseNumber s 2
        throw .returns
      | some i =>
        if ¬ rest.isEmpty then tooMany
        setStatus (i.emod 256).toNat
        throw .returns

/-- Leaves loops, or begins one anew. -/
def leaveLoops (leave : Nat → Leave) (args : List String) : Run Unit := do
  let loops := (← get).loops
  setStatus 0
  if loops = 0 then
    complain "only meaningful in a \x60for', \x60while', or \x60until' loop"
  else
    match args with
    | [] => throw (leave 1)
    | s :: rest =>
      match Numeral.integer? s with
      | none =>
        refuseNumber s 128
        modify fun m => { m with kept := none }
        throw .exit
      | some i =>
        if ¬ rest.isEmpty then tooMany
        if i ≤ 0 then
          refuse (s ++ ": loop count out of range") 1
          throw (.breaks loops)
        throw (leave (min i.toNat loops))

/-! ## Section 2: Printing, testing and calculating -/

/-- The options of `echo`: whether it ends the line, whether it knows escapes, and the
    words behind them. -/
def echoOptions (endsLine escapes : Bool) : List String → Bool × Bool × List String
  | [] => (endsLine, escapes, [])
  | a :: rest =>
    match a.toList with
    | '-' :: c :: cs =>
      if (c :: cs).all "neE".toList.contains then
        let last := (c :: cs).reverse.find? fun d => d == 'e' || d == 'E'
        echoOptions (endsLine && !(c :: cs).contains 'n') (last.elim escapes (· == 'e')) rest
      else (endsLine, escapes, a :: rest)
    | _ => (endsLine, escapes, a :: rest)

/-- Prints its arguments. -/
def echo (args : List String) : Run Unit := do
  let (endsLine, escapes, words) := echoOptions true false args
  let s := " ".intercalate words
  let (cs, ends) := if escapes then Format.argument s .rich true else (s.toList, false)
  print (String.ofList (if endsLine ∧ ¬ ends then cs ++ ['\n'] else cs))
  setStatus 0

/-- Prints its arguments in a format, or puts the result into a variable. -/
def printf (args : List String) : Run Unit := do
  let (options, args) ← splitOptions "v:" args
  match args with
  | [] => showUsage
  | format :: rest =>
    let p := Format.print .rich format rest
    p.complaints.forM fun c => complain (c.message .rich)
    setStatus (if p.status = 0 then 0 else 1)
    match options.lookup 'v' with
    | none => print (String.ofList p.bytes)
    | some target =>
      let (name, subscript) := splitSubscript target
      if ¬ isName name.toList then
        complain ("\x60" ++ target ++ "': not a valid identifier")
        setStatus 2
      else
        let key ← subscript.mapM (subscriptOf name)
        store name key false (String.ofList p.bytes)

/-- Tests a condition. -/
def test (words : List String) : Run Unit := do
  let machine ← get
  match ← Work.look fun world => Testing.holds { world, machine } words with
  | .ok b => setStatus (if b then 0 else 1)
  | .error f => refuse f.message 2

/-- Tests a condition before a closing bracket. -/
def bracket (args : List String) : Run Unit :=
  match args.getLast? with
  | some "]" => test args.dropLast
  | _ => refuse "missing \x60]'" 2

/-- Calculates expressions. The last one decides whether it succeeds. -/
def let_ (args : List String) : Run Unit := do
  if args.isEmpty then refuse "expression expected" 1
  else
    let n ← args.foldlM (fun _ a => calculate a.toList) 0
    setStatus (if n = 0 then 1 else 0)

/-! ## Section 3: Reading -/

/-- Reads characters backwards behind those that are given, up to a delimiter; the result
    says whether it was found. A backslash takes the meaning from what follows it unless
    the text is taken as it is. The first number bounds the characters; so may another
    one. -/
def readPiecesFrom (descriptor : Nat) (asIs : Bool) (delimiter : Option Char) :
    Nat → Option Nat → List Piece → Run (List Piece × Bool)
  | 0, _, pieces => return (pieces, false)
  | fuel + 1, left, pieces => do
    if left = some 0 then return (pieces, true)
    let less := left.map (· - 1)
    let one : Run (Option Char) := do
      match ← Work.read descriptor 1 with
      | .ok bytes => return (bytes.toList.head?).map fun b => Char.ofNat b.toNat
      | .error _ => return none
    match ← one with
    | none => return (pieces, false)
    | some c =>
      if some c = delimiter then return (pieces, true)
      else if c = '\x00' then readPiecesFrom descriptor asIs delimiter fuel less pieces
      else if c = '\\' ∧ ¬ asIs then
        match ← one with
        | none => return (pieces, false)
        | some '\n' =>
          readPiecesFrom descriptor asIs delimiter fuel less (.region false :: pieces)
        | some c =>
          readPiecesFrom descriptor asIs delimiter fuel less
            (.region false :: .fast c true :: pieces)
      else readPiecesFrom descriptor asIs delimiter fuel less (.loose c :: pieces)

/-- Reads a line of the input into variables, or into a list. -/
def read (args : List String) : Run Unit := do
  let (options, names) ← splitOptions "ersa:d:i:n:N:p:t:u:" args
  match names.find? fun n => !isName (splitSubscript n).1.toList with
  | some n =>
    refuse ("\x60" ++ n ++ "': not a valid identifier") 1
    return
  | none => pure ()
  let numberAt (c : Char) : Option Nat := (options.lookup c).map fun s => Decimal.valueOf s.toList
  let exact := numberAt 'N'
  let delimiter : Option Char := match options.lookup 'd', exact with
    | _, some _ => none
    | some s, none => some (s.toList.head?.getD '\x00')
    | none, none => some '\n'
  let limit := match exact with
    | some n => some n
    | none => numberAt 'n'
  let (pieces, ended) ← readPiecesFrom ((numberAt 'u').getD 0) (has options 'r') delimiter
    lineLimit limit [.region false]
  let m ← get
  set { m with status := if ended then 0 else 1 }
  let pieces := pieces.reverse
  match options.lookup 'a', names, exact with
  | some name, _, _ =>
    modify fun m => m.dropVariable name
    storeList name false ((Fields.ofPieces m.separators pieces).map fun f => (none, f.text))
  | none, [], _ => store "REPLY" none false (Piece.joined pieces).text
  | none, name :: _, some _ => storeAt name (Piece.joined pieces).text
  | none, names, none =>
    let fields := Fields.ofPieces m.separators pieces (some names.length)
    let values := fields.map Marked.text ++ List.replicate names.length ""
    (names.zip values).forM fun (name, value) => storeAt name value
where
  /-- Assigns to a variable, or to an element. -/
  storeAt (target value : String) : Run Unit := do
    let (name, subscript) := splitSubscript target
    store name (← subscript.mapM (subscriptOf name)) false value

/-- The pieces of a text up to and with each delimiter. -/
def linesOf (delimiter : Char) (cs : List Char) : List (List Char) :=
  cs.foldr (fun c rows =>
    if c = delimiter then [c] :: rows
    else match rows with
      | [] => [[c]]
      | row :: rest =>
        (c :: row) :: rest) []

/-- Reads the lines of the input into a list. -/
def mapfile (args : List String) : Run Unit := do
  let (options, names) ← splitOptions "d:n:O:s:tu:C:c:" args
  setStatus 0
  let numberAt (c : Char) : Nat := ((options.lookup c).map fun s => Decimal.valueOf s.toList).getD 0
  let delimiter := match options.lookup 'd' with
    | some s => s.toList.head?.getD '\x00'
    | none => '\n'
  let name := names.head?.getD "MAPFILE"
  match ← Work.readAll (numberAt 'u') with
  | .error _ => setStatus 1
  | .ok bytes =>
    let rows := (linesOf delimiter (Octets.ofBytes bytes).toList).drop (numberAt 's')
    let rows := if numberAt 'n' = 0 then rows else rows.take (numberAt 'n')
    let texts := rows.map fun row =>
      String.ofList (if has options 't' ∧ row.getLast? = some delimiter then row.dropLast else row)
    let keyed := texts.zipIdx.map fun (s, i) => (some (numberText (i + numberAt 'O')), s)
    storeList name (has options 'O') keyed

/-! ## Section 4: Directories and options -/

/-- Goes to another directory. -/
def cd (args : List String) : Run Unit := do
  let (options, args) ← splitOptions "LPe@" args
  let isPhysical := (options.getLast?.map Prod.fst) == some 'P'
  let m ← get
  if 1 < args.length then
    refuse "too many arguments" 1
    return
  let goesBack := args.head? == some "-"
  let target? : Option String ← match args with
    | [] =>
      if (m.valueOf? "HOME").isNone then
        refuse "HOME not set" 1
      pure (m.valueOf? "HOME")
    | d :: _ =>
      if goesBack then
        if (m.valueOf? "OLDPWD").isNone then
          refuse "OLDPWD not set" 1
        pure (m.valueOf? "OLDPWD")
      else pure (some d)
  match target? with
  | none => pure ()
  | some target =>
    let target := if target.isEmpty then "." else target
    let found ← (candidates m target).findM? fun (path, _) => Work.look fun w =>
      match w.find path with
      | .ok id => (w.files.contentOf id).isDirectory
      | .error _ => false
    let (path, prints) := found.getD (target, false)
    if ← enter path isPhysical then
      if goesBack ∨ prints then print ((← get).directory ++ "\n")
      setStatus 0
    else
      let fault ← Work.look fun w => match w.find path with
        | .ok _ => Fault.notDirectory
        | .error f => f
      refuse (target ++ ": " ++ fault.message) 1

/-- Sets options and arguments, or lists the variables. -/
def set_ (args : List String) : Run Unit :=
  if args.isEmpty then do
    printValues
    setStatus 0
  else Builtin.set_ args

/-- Drops arguments. -/
def shift (args : List String) : Run Unit := do
  match args with
  | _ :: _ :: _ => tooMany
  | [] => drop 1
  | [s] =>
    match Numeral.integer? s with
    | none => refuseNumber s 1
    | some i => if i < 0 then refuse (s ++ ": shift count out of range") 1 else drop i.toNat
where
  /-- Drops so many arguments, if there are as many. -/
  drop (n : Nat) : Run Unit := modify fun m =>
    if m.arguments.length < n then { m with status := 1 }
    else { m with arguments := m.arguments.drop n, status := 0 }

/-- The further options of the rich dialect, with whether they are on at first. -/
def furtherOptions : List (String × Bool) :=
  [("autocd", false), ("assoc_expand_once", false), ("cdable_vars", false), ("cdspell", false),
   ("checkhash", false), ("checkjobs", false), ("checkwinsize", true), ("cmdhist", true),
   ("compat31", false), ("compat32", false), ("compat40", false), ("compat41", false),
   ("compat42", false), ("compat43", false), ("compat44", false), ("complete_fullquote", true),
   ("direxpand", false), ("dirspell", false), ("dotglob", false), ("execfail", false),
   ("expand_aliases", false), ("extdebug", false), ("extglob", false), ("extquote", true),
   ("failglob", false), ("force_fignore", true), ("globasciiranges", true),
   ("globskipdots", true), ("globstar", false), ("gnu_errfmt", false), ("histappend", false),
   ("histreedit", false), ("histverify", false), ("hostcomplete", true), ("huponexit", false),
   ("inherit_errexit", false), ("interactive_comments", true), ("lastpipe", false),
   ("lithist", false), ("localvar_inherit", false), ("localvar_unset", false),
   ("login_shell", false), ("mailwarn", false), ("no_empty_cmd_completion", false),
   ("nocaseglob", false), ("nocasematch", false), ("noexpand_translation", false),
   ("nullglob", false), ("patsub_replacement", true), ("progcomp", true),
   ("progcomp_alias", false), ("promptvars", true), ("restricted_shell", false),
   ("shift_verbose", false), ("sourcepath", true), ("varredir_close", false),
   ("xpg_echo", false)]

/-- Switches further options, or lists them. -/
def shopt (args : List String) : Run Unit := do
  let (options, names) ← splitOptions "pqsuo" args
  setStatus 0
  let m ← get
  let known := if has options 'o' then (Machine.optionNames .rich).map Prod.snd
    else furtherOptions.map Prod.fst
  let show_ (name : String) : Run Unit := do
    let isOn := m.isOn name
    if !isOn ∧ ¬ names.isEmpty then setStatus 1
    if has options 'q' then return
    if has options 'p' then print ("shopt " ++ (if isOn then "-s " else "-u ") ++ name ++ "\n")
    else
      print (filledTo 15 name ++ "\t" ++ (if isOn then "on" else "off") ++ "\n")
  let changes := has options 's' || has options 'u'
  let selected := if ¬ names.isEmpty then names
    else if has options 's' then known.filter m.isOn
    else if has options 'u' then known.filter fun n => !m.isOn n
    else known
  selected.forM fun name => do
    if ¬ known.contains name then refuse (name ++ ": invalid shell option name") 1
    else if changes ∧ ¬ names.isEmpty then modify fun m => m.switch name (has options 's')
    else show_ name

/-! ## Section 5: Signals and jobs -/

/-- The signal of a name, with or without the letters in front of it, or of a number. -/
def signalOf? (s : String) : Option (Option Signal) :=
  let upper := s.map Char.toUpper
  Builtin.signalOf? (if upper.startsWith "SIG" then (upper.drop 3).toString else s)

/-- The name of a signal at length. -/
def longName (n : Nat) : String :=
  match n with
  | 0 => "EXIT"
  | 16 => "SIGSTKFLT"
  | n => "SIG" ++ ((Signal.ofNumber? n).map (·.name)).getD ""

/-- Lists the signals in columns. -/
def listSignals : Run Unit := do
  let numbers := (List.range 65).filter fun n => n != 0 && n != 32 && n != 33
  numbers.zipIdx.forM fun (n, i) => do
    let number := (if n < 10 then " " else "") ++ numberText n
    let isEnd := (i + 1) % 5 == 0 || i + 1 == numbers.length
    print (number ++ ") " ++ longName n ++ (if isEnd then "\n" else "\t"))

/-- Sends a signal to a process, or refuses to. -/
def send (signal : Option Signal) (target : String) : Run Unit := do
  match Numeral.integer? target with
  | none => refuse (target ++ ": arguments must be process or job IDs") 1
  | some i =>
    let self ← Work.self
    let id := if i = 0 then self else i.toNat
    if ← Work.look fun w => 0 ≤ i && (w.process? id).isSome then
      signal.forM fun s => do Work.signal id s
    else refuse ("(" ++ target ++ ") - No such process") 1

/-- Sends a signal to processes. -/
def sendAll (signal : Option Signal) (targets : List String) : Run Unit := do
  setStatus 0
  if targets.isEmpty then showUsage
  targets.forM (send signal)

/-- Sends a signal, or lists signals. -/
def kill (args : List String) : Run Unit := do
  let named (s : String) (targets : List String) : Run Unit :=
    match signalOf? s with
    | some signal => sendAll signal targets
    | none => refuse (s ++ ": invalid signal specification") 1
  match args with
  | [] => showUsage
  | "-l" :: [] | "-L" :: [] => do
    setStatus 0
    listSignals
  | "-l" :: names | "-L" :: names =>
    setStatus 0
    names.forM fun s =>
      match Numeral.integer? s with
      | some i =>
        let n := if 128 < i then i.toNat - 128 else i.toNat
        match if n = 0 then none else Signal.ofNumber? n with
        | some signal => print (signal.name ++ "\n")
        | none => refuse (s ++ ": invalid signal specification") 1
      | none =>
        match signalOf? s with
        | some (some signal) => print (numberText signal.number ++ "\n")
        | some none => print "0\n"
        | none => refuse (s ++ ": invalid signal specification") 1
  | ["-s"] | ["-n"] => refuse (args.head?.getD "" ++ ": option requires an argument") 1
  | "-s" :: s :: targets | "-n" :: s :: targets => named s targets
  | "--" :: targets => sendAll (Signal.ofNumber? 15) targets
  | first :: targets =>
    match first.toList with
    | '-' :: c :: cs => named (String.ofList (c :: cs)) targets
    | _ => sendAll (Signal.ofNumber? 15) args

/-- Waits for jobs, or for all of them. -/
def wait (args : List String) : Run Unit := do
  let (_, names) ← splitOptions "fnp:" args
  match names.find? fun s => !(s.startsWith "%" || s.toList.all Char.isDigit) with
  | some s => refuse ("\x60" ++ s ++ "': not a pid or valid job spec") 1
  | none =>
    let m ← get
    let isKnown (s : String) : Bool := s.startsWith "%" ||
      m.jobs.any fun j => j.processes.any fun (p, _) => numberText p == s
    match names.find? (!isKnown ·) with
    | some s => refuse ("pid " ++ s ++ " is not a child of this shell") 127
    | none => Builtin.wait names

/-- Refuses to bring a job to the foreground or to the background. -/
def controlJob (_ : List String) : Run Unit := refuse "no job control" 1

/-- The conditions for traps that are no signals, with numbers beyond all signals. -/
def furtherConditions : List (String × Nat) := [("DEBUG", 1001), ("ERR", 1002), ("RETURN", 1003)]

/-- The number of the condition that a command has failed. -/
def failureCondition : Nat := 1002

/-- The number of the condition that a command is going to be run. -/
def commandCondition : Nat := 1001

/-- The number of a condition for a trap. -/
def condition? (s : String) : Option Nat :=
  let upper := s.map Char.toUpper
  match furtherConditions.lookup upper with
  | some n => some n
  | none =>
    if s = "0" ∨ upper = "EXIT" then some 0
    else match signalOf? s with
      | some (some signal) => some signal.number
      | _ => none

/-- The name of a condition for a trap. -/
def conditionName (n : Nat) : String :=
  match furtherConditions.find? fun (_, k) => k == n with
  | some (name, _) => name
  | none => longName n

/-- Sets the command for conditions, or lists the commands. -/
def trap (args : List String) : Run Unit := do
  let (options, args) ← splitOptions "lp" args
  setStatus 0
  let showAll (wanted : Nat → Bool) : Run Unit := do
    let traps := ((← get).traps.filter (wanted ·.1)).mergeSort fun a b => a.1 ≤ b.1
    traps.forM fun (n, command) =>
      print ("trap -- " ++ shownQuoted command ++ " " ++ conditionName n ++ "\n")
  let change (action : Option String) (names : List String) : Run Unit :=
    names.forM fun s => do
      match condition? s with
      | none => refuse (s ++ ": invalid signal specification") 1
      | some n =>
        modify fun m =>
          let others := m.traps.filter fun (k, _) => k != n
          { m with traps := match action with
            | some command => (n, command) :: others
            | none => others }
        if n < 1000 then handle n action
  if has options 'l' then listSignals
  else match has options 'p', args with
    | _, [] => showAll fun _ => true
    | true, names =>
      let numbers := names.filterMap condition?
      showAll numbers.contains
    | false, [s] => change none [s]
    | false, a :: rest =>
      if a = "-" then change none rest
      else if ¬ a.isEmpty ∧ a.toList.all Char.isDigit then change none (a :: rest)
      else change (some a) rest

/-! ## Section 6: Names -/

/-- Takes the next option out of the arguments of the shell, or out of other ones. -/
def getopts (args : List String) : Run Unit := do
  match args with
  | _ :: _ :: _ => Builtin.getopts args
  | _ => showUsage

/-- Defines aliases, or lists them. -/
def alias_ (args : List String) : Run Unit := do
  setStatus 0
  let (_, args) ← splitOptions "p" args
  let show_ (name text : String) : Run Unit :=
    print ("alias " ++ name ++ "=" ++ enclosed text ++ "\n")
  if args.isEmpty then
    ((← get).aliases.mergeSort fun a b => !decide (b.1 < a.1)).forM fun (n, t) => show_ n t
  args.forM fun a => do
    match splitAssignment a with
    | (name, some text) =>
      modify fun m => { m with aliases := (name, text) :: m.aliases.filter (·.1 != name) }
    | (name, none) =>
      match (← get).aliases.lookup name with
      | some text => show_ name text
      | none => refuse (name ++ ": not found") 1

/-- Removes aliases. -/
def unalias (args : List String) : Run Unit := do
  setStatus 0
  let (options, names) ← splitOptions "a" args
  if has options 'a' then modify fun m => { m with aliases := [] }
  else if names.isEmpty then showUsage
  else names.forM fun name => do
    let m ← get
    if (m.aliases.lookup name).isSome then
      set { m with aliases := m.aliases.filter (·.1 != name) }
    else refuse (name ++ ": not found") 1

/-- Notes the places of programs, or lists them. -/
def hash (args : List String) : Run Unit := do
  setStatus 0
  let (options, names) ← splitOptions "lrp:dt" args
  if has options 'r' then modify fun m => { m with found := [] }
  else if names.isEmpty then
    let found := (← get).found
    if found.isEmpty then print "hash: hash table empty\n"
    else
      print "hits\tcommand\n"
      found.forM fun (_, path) => print ("   0\t" ++ path ++ "\n")
  else names.forM fun name => do
    let m ← get
    match ← locate name (Machine.searched m) with
    | .ok path =>
      modify fun m => { m with found := m.found.filter (·.1 != name) ++ [(name, path)] }
    | .error _ => refuse (name ++ ": not found") 1

/-- Prints the directories that were put aside, which are none. -/
def dirs (_ : List String) : Run Unit := do
  let m ← get
  print (m.directory ++ "\n")
  setStatus 0

/-! ## Section 7: The table -/

/-- The built-in command of a name that only the rich dialect has, or that does there
    what it does not do elsewhere. -/
def find? (name : String) : Option (List String → Run Unit) :=
  match name with
  | "exit" => some exit
  | "return" => some return_
  | "break" => some (leaveLoops .breaks)
  | "continue" => some (leaveLoops .continues)
  | "echo" => some echo
  | "printf" => some printf
  | "test" => some test
  | "[" => some bracket
  | "let" => some let_
  | "read" => some read
  | "mapfile" | "readarray" => some mapfile
  | "cd" => some cd
  | "set" => some set_
  | "shift" => some shift
  | "shopt" => some shopt
  | "kill" => some kill
  | "wait" => some wait
  | "fg" | "bg" => some controlJob
  | "trap" => some trap
  | "getopts" => some getopts
  | "alias" => some alias_
  | "unalias" => some unalias
  | "hash" => some hash
  | "dirs" => some dirs
  | "declare" | "typeset" => some declare_
  | "local" => some ownVariables
  | "export" => some exportAll
  | "readonly" => some freezeAll
  | "unset" => some remove
  | _ => none

end SimSweep.Shell.Builtin.Rich
