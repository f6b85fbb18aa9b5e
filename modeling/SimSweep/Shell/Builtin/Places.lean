import SimSweep.Shell.Builtin.Options

/-! # Built-in commands on the surroundings of a shell

    The present directory, the permissions of new files, limits, and the places where
    programs were found.
-/

namespace SimSweep.Shell.Builtin

open Kernel

/-! ## Section 1: Directories -/

/-- A path without dots between its names. A second slash at its start stays. -/
def withoutDots (path : String) : String :=
  let names := Files.namesOf path
  let head := if path.startsWith "//" ∧ ¬ path.startsWith "///" then "//" else "/"
  head ++ "/".intercalate (names.foldl (fun kept name =>
    if name = "" ∨ name = "." then kept
    else if name = ".." then kept.dropLast
    else kept ++ [name]) [])

/-- The path that is meant by a path, seen from the present directory. -/
def pathTo (m : Machine) (path : String) : String :=
  if path.startsWith "/" then withoutDots path else withoutDots (m.directory ++ "/" ++ path)

/-- The path of the present directory in the system. -/
def physicalDirectory : Run String := do
  Work.look fun w => w.files.pathOf w.self.directory

/-- Goes to a directory, whose path is given as it is reached or as it is in the system.
    The result is whether there is one. -/
def enter (path : String) (isPhysical : Bool) : Run Bool := do
  let m ← get
  let target := if isPhysical then path else pathTo m path
  let done ← Work.act fun w =>
    match w.find target with
    | .ok id =>
      if (w.files.contentOf id).isDirectory then
        (true, w.changeSelf fun p => { p with directory := id })
      else (false, w)
    | .error _ => (false, w)
  if !done then return false
  let directory ← if isPhysical then physicalDirectory else pure target
  assign "OLDPWD" m.directory
  modify fun m => { m with directory }
  assign "PWD" directory
  modify fun m => ["OLDPWD", "PWD"].foldl (fun m name => match m.binding? name with
    | some v => m.putVariable { v with isExported := true }
    | none => m) m
  return true

/-- The paths under which a directory is looked for, each with whether it is printed. -/
def candidates (m : Machine) (target : String) : List (String × Bool) :=
  let isFixed := target.startsWith "/" || target == "." || target == ".." ||
    target.startsWith "./" || target.startsWith "../"
  if isFixed then []
  else match m.valueOf? "CDPATH" with
    | none => []
    | some s =>
      (s.splitOn ":").map fun d =>
        if d.isEmpty then (target, false)
        else (if d.endsWith "/" then d ++ target else d ++ "/" ++ target, true)

/-- Goes to another directory. -/
def cd (args : List String) : Run Unit := do
  let (options, args) ← splitOptions "LP" args
  let isPhysical := (options.getLast?.map Prod.fst) == some 'P'
  let m ← get
  let goesBack := args.head? == some "-"
  let target := match args with
    | [] => (m.valueOf? "HOME").getD ""
    | d :: _ => if goesBack then (m.valueOf? "OLDPWD").getD "" else d
  let target := if target.isEmpty then "." else target
  let isDirectory (path : String) : Run Bool := do
    Work.look fun w => match w.find path with
      | .ok id => (w.files.contentOf id).isDirectory
      | .error _ => false
  let found ← (candidates m target).findM? fun (path, _) => isDirectory path
  let (path, prints) := found.getD (target, false)
  if ← enter path isPhysical then
    if goesBack ∨ prints then print ((← get).directory ++ "\n")
    setStatus 0
  else fail ("can't cd to " ++ target)

/-- Prints the present directory. -/
def pwd (args : List String) : Run Unit := do
  let (options, _) ← splitOptions "LP" args
  if (options.getLast?.map Prod.fst) = some 'P' then print ((← physicalDirectory) ++ "\n")
  else print ((← get).directory ++ "\n")
  setStatus 0

/-! ## Section 2: Permissions of new files -/

/-- The permissions that letters stand for, out of the present ones. -/
def permissionBits (present : Nat) (letters : List Char) : Nat :=
  letters.foldl (fun bits c => bits ||| match c with
    | 'r' => 4
    | 'w' => 2
    | 'x' => 1
    | 'X' => if present &&& 0o111 = 0 then 0 else 1
    | 'u' => present / 64 % 8
    | 'g' => present / 8 % 8
    | 'o' => present % 8
    | _ => 0) 0

/-- The permissions after changes that are written in letters; none if they are not
    written rightly. The number bounds the letters. -/
def changedMode? : Nat → List Nat → Nat → List Char → Option Nat
  | 0, _, mode, _ => some mode
  | _, _, mode, [] => some mode
  | fuel + 1, whose, mode, c :: cs =>
    match c with
    | 'u' => changedMode? fuel (64 :: whose) mode cs
    | 'g' => changedMode? fuel (8 :: whose) mode cs
    | 'o' => changedMode? fuel (1 :: whose) mode cs
    | 'a' => changedMode? fuel (64 :: 8 :: 1 :: whose) mode cs
    | _ =>
      if c ≠ '+' ∧ c ≠ '-' ∧ c ≠ '=' then none
      else
        let letters := cs.takeWhile fun d => "rwxXugost".toList.contains d
        let whose' := if whose.isEmpty then [64, 8, 1] else whose
        let bits := permissionBits mode letters
        let mode := whose'.foldl (fun mode unit =>
          let old := mode / unit % 8
          let new := if c = '+' then old ||| bits else if c = '-' then old &&& (7 - bits) else bits
          mode - old * unit + new * unit) mode
        match cs.drop letters.length with
        | ',' :: rest => changedMode? fuel [] mode rest
        | rest =>
          if (rest.head?.all fun d => d == '+' || d == '-' || d == '=') then
            changedMode? fuel whose mode rest
          else none

/-- The permissions of one kind of user in letters. -/
def modeLetters (bits : Nat) : String :=
  (if bits / 4 % 2 = 1 then "r" else "") ++ (if bits / 2 % 2 = 1 then "w" else "") ++
    (if bits % 2 = 1 then "x" else "")

/-- A number in base eight with four digits at least. -/
def octal (n : Nat) : String :=
  let digits := Nat.toDigits 8 n
  String.ofList (List.replicate (4 - digits.length) '0' ++ digits)

/-- Prints the permissions that new files do not get, or sets them. -/
def umask (args : List String) : Run Unit := do
  let (options, operands) ← splitOptions "S" args
  setStatus 0
  let mask ← Work.look fun w => w.self.mask
  match operands with
  | [] =>
    if has options 'S' then
      let mode := 0o777 - mask
      print ("u=" ++ modeLetters (mode / 64 % 8) ++ ",g=" ++ modeLetters (mode / 8 % 8) ++
        ",o=" ++ modeLetters (mode % 8) ++ "\n")
    else print (octal mask ++ "\n")
  | s :: _ =>
    let put (mask : Nat) : Run Unit := Work.change fun w =>
      w.changeSelf fun p => { p with mask := mask % 512 }
    match s.toList with
    | c :: cs =>
      if c.isDigit then
        if (c :: cs).all fun d => decide ('0' ≤ d ∧ d ≤ '7') then
          put (Nat.ofDigitChars 8 (c :: cs) 0)
        else fail ("Illegal number: " ++ s)
      else match changedMode? (s.length + 1) [] (0o777 - mask) (c :: cs) with
        | some mode => put (0o777 - mode)
        | none => fail ("Illegal mode: " ++ s)
    | [] => pure ()

/-! ## Section 3: Limits and places of programs -/

/-- The letters of limits, with their usual values. -/
def usualLimits : List (Char × String) :=
  [('t', "unlimited"), ('f', "unlimited"), ('d', "unlimited"), ('s', "8192"), ('c', "0"),
   ('m', "unlimited"), ('l', "8192"), ('p', "unlimited"), ('n', "1024"), ('v', "unlimited"),
   ('w', "unlimited"), ('r', "0")]

/-- Prints a limit, or sets it. -/
def ulimit (args : List String) : Run Unit := do
  let (options, operands) ← splitOptions "HSatfdscmlpnvwr" args
  let letter := ((options.map Prod.fst).filter fun c => !"HSa".toList.contains c).getLast?.getD 'f'
  let m ← get
  let value (c : Char) : String := ((m.limits ++ usualLimits).lookup c).getD "unlimited"
  setStatus 0
  match operands with
  | [] => print (value letter ++ "\n")
  | [s] =>
    if s = "unlimited" ∨ (¬ s.isEmpty ∧ s.toList.all Char.isDigit) then
      set { m with limits := (letter, s) :: m.limits, status := 0 }
    else fail "bad number"
  | _ => fail "too many arguments"

/-- Prints the time that the shell and its children have taken, which is none. -/
def times : Run Unit := do
  print "0m0.000000s 0m0.000000s\n0m0.000000s 0m0.000000s\n"
  setStatus 0

/-- Whether a file is a program: one of the system, or one whose permissions say so. -/
def isProgram (node : Node) : Bool :=
  match node.content with
  | .program _ => true
  | .regular _ => node.mode &&& 0o111 != 0
  | _ => false

/-- Looks for a program in directories. A file that is no program is passed over, but
    then it is the reason why there is none. -/
def searchIn (w : World) (name : String) : List String → Fault → Except Fault String
  | [], fault => .error fault
  | d :: rest, fault =>
    let path := if d.isEmpty then name else if d.endsWith "/" then d ++ name else d ++ "/" ++ name
    match w.find path with
    | .ok id =>
      match w.files.node? id with
      | some node => if isProgram node then .ok path else searchIn w name rest .denied
      | none => searchIn w name rest fault
    | .error .notFound | .error .notDirectory => searchIn w name rest fault
    | .error f => searchIn w name rest f

/-- The path of a program. A name with a slash is its own path. -/
def locate (name path : String) : Run (Except Fault String) := do
  if name.contains '/' then return .ok name
  else Work.look fun w => searchIn w name (path.splitOn ":") .notFound

/-- Says why a program was not found. -/
def refuseProgram (name : String) (f : Fault) : Run Unit := do
  let isRich := (← get).dialect = .rich
  complain (name ++ ": " ++ match f with
    | .notFound =>
      if ¬ isRich then "not found"
      else if name.contains '/' then f.message
      else "command not found"
    | .notDirectory => if isRich then f.message else "not found"
    | f => f.message)

/-- Notes the places of programs, or lists them. -/
def hash (args : List String) : Run Unit := do
  setStatus 0
  let (options, names) ← splitOptions "r" args
  if has options 'r' then modify fun m => { m with found := [] }
  else if names.isEmpty then
    let found := (← get).found.mergeSort fun a b =>
      Machine.row Machine.programRows a.1 ≤ Machine.row Machine.programRows b.1
    found.forM fun (_, path) => print (path ++ "\n")
  else names.forM fun name => do
    let m ← get
    if (m.functions.lookup name).isSome then return
    match ← locate name (Machine.searched m) with
    | .ok path =>
      modify fun m => { m with found := m.found.filter (·.1 != name) ++ [(name, path)] }
    | .error f =>
      refuseProgram name f
      setStatus 1

end SimSweep.Shell.Builtin
