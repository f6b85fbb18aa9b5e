import SimSweep.Tool.Lines
import SimSweep.Tool.Paths

/-! # Tools that make, move and remove files

    They change what names there are in directories, and what the permission bits of
    files are.
-/

namespace SimSweep.Tool

open Kernel

/-! ## Section 1: Names -/

/-- A path without slashes at its end. -/
def withoutSlashes (path : String) : String :=
  let cs := (path.toList.reverse.dropWhile (· = '/')).reverse
  if cs.isEmpty ∧ ¬ path.isEmpty then "/" else String.ofList cs

/-- The path of a name in a directory. -/
def pathIn (directory name : String) : String :=
  if directory.endsWith "/" then directory ++ name else directory ++ "/" ++ name

/-- The node of a path and what it holds; links are followed if wanted. -/
def nodeOf (path : String) (follows : Bool := true) : Deed (Except Fault (Nat × Node)) :=
  Work.look fun w => do
    let id ← w.find path follows
    match w.files.node? id with
    | some node => return (id, node)
    | none => throw .notFound

/-- Whether a path names a directory. -/
def isDirectoryAt (path : String) : Deed Bool := do
  match ← nodeOf path with
  | .ok (_, node) => return node.content.isDirectory
  | .error _ => return false

/-- Changes the files, unless there is a fault. -/
def changeFiles (f : World → Except Fault Files) : Deed (Except Fault Unit) :=
  Work.act fun w => match f w with
    | .ok files => (.ok (), { w with files, stirred := true })
    | .error fault => (.error fault, w)

/-- Puts a file at a path where there is none. -/
def makeAt (path : String) (content : World → Place → Content) (mode : Nat) :
    Deed (Except Fault Unit) :=
  changeFiles fun w => do
    let place ← w.resolve (withoutSlashes path) false
    if place.node.isSome then throw .alreadyThere
    let mode := mode &&& (0o7777 ^^^ (w.self.mask &&& 0o777))
    return (w.files.make place.directory place.name
      { content := content w place, mode, modified := w.now }).1

/-- Takes the name of a path away. -/
def removeAt (path : String) (isWanted : Content → Except Fault Unit) :
    Deed (Except Fault Unit) :=
  changeFiles fun w => do
    let place ← w.resolve (withoutSlashes path) false
    match place.node with
    | none => throw .notFound
    | some id =>
      isWanted (w.files.contentOf id)
      return w.files.leave place.directory place.name

/-- Does something for each operand; the status is zero if it succeeds for all. -/
def forOperands (operands : List String) (f : String → Deed Bool) : Deed Nat := do
  let results ← operands.mapM f
  return if results.all id then 0 else 1

/-! ## Section 2: Permission bits -/

/-- The bits that letters of a mode denote, for those who are meant. -/
def bitsFor (who : Nat) (isDirectory : Bool) (old : Nat) (letters : List Char) : Nat :=
  letters.foldl (fun bits c =>
    bits ||| (match c with
      | 'r' => 0o444 &&& who
      | 'w' => 0o222 &&& who
      | 'x' => 0o111 &&& who
      | 'X' => if isDirectory ∨ old &&& 0o111 ≠ 0 then 0o111 &&& who else 0
      | 's' => 0o6000 &&& who
      | 't' => 0o1000 &&& who
      | _ => 0)) 0

/-- A mode after the changes that a text asks for; none if it asks for no change. -/
def modeAfter? (text : String) (old mask : Nat) (isDirectory : Bool) : Option Nat :=
  let isOctal := text.toList.all fun c => '0' ≤ c && c ≤ '7'
  if text.isEmpty then none
  else if isOctal ∧ text.length ≤ 5 then
    let n := Nat.ofDigitChars 8 text.toList 0
    if n ≤ 0o7777 then some n else none
  else (splitAt ',' text.toList).foldlM (fun mode clause => clauseOf mode clause) old
where
  /-- The mode after one clause. -/
  clauseOf (old : Nat) (clause : List Char) : Option Nat :=
    let people := clause.takeWhile fun c => "ugoa".toList.contains c
    let who := people.foldl (fun bits c => bits ||| (match c with
      | 'u' => 0o4700
      | 'g' => 0o2070
      | 'o' => 0o1007
      | _ => 0o7777)) 0
    let who := if people.isEmpty then 0o7777 &&& (0o7777 ^^^ mask) else who
    let rest := clause.drop people.length
    if rest.isEmpty then none else actions who (rest.length + 1) old rest
  /-- The mode after signs with letters. -/
  actions (who : Nat) : Nat → Nat → List Char → Option Nat
    | 0, old, _ => some old
    | _, old, [] => some old
    | fuel + 1, old, sign :: rest =>
      let isCopy := rest.head?.any fun c => "ugo".toList.contains c
      let letters :=
        if isCopy then rest.take 1
        else rest.takeWhile fun c => "rwxXst".toList.contains c
      let bits := match isCopy, rest.head? with
        | true, some c =>
          let part := (if c = 'u' then old / 64 else if c = 'g' then old / 8 else old) % 8
          (part * 73) &&& who
        | _, _ => bitsFor who isDirectory old letters
      let next := actions who fuel
      let after := rest.drop letters.length
      match sign with
      | '+' => next (old ||| bits) after
      | '-' => next (old &&& (0o7777 ^^^ bits)) after
      | '=' => next ((old &&& (0o7777 ^^^ (who &&& 0o777))) ||| bits) after
      | _ => none

/-- Changes the permission bits of files. -/
def chmod : Deed Nat := do
  let call ← read
  let isMode (a : String) : Bool := match a.toList with
    | '-' :: c :: _ => "rwxXst".toList.contains c
    | _ => false
  let args := call.args.map fun a => if isMode a then "\x01" ++ a else a
  let g ← takeOptions
    [{ letter := 'R', name := "recursive" }, { letter := 'v', name := "verbose" },
     { letter := 'c', name := "changes" }, { letter := 'f', name := "silent" },
     { letter := 'f', name := "quiet" },
     { letter := '\x02', name := "reference", takes := .value }] args
  let operands := g.operands.map fun a => if a.startsWith "\x01" then String.ofList (a.toList.drop 1) else a
  match operands with
  | [] => misuse "missing operand"
  | [mode] => misuse ("missing operand after " ++ quote mode)
  | mode :: names =>
    let mask ← Work.look (·.self.mask)
    if (modeAfter? mode 0 mask false).isNone then misuse ("invalid mode: " ++ quote mode)
    forOperands names fun name => do
      match ← nodeOf name with
      | .error f =>
        if ¬ g.has 'f' then complain ("cannot access " ++ quoteName name ++ ": " ++ f.message)
        return false
      | .ok (id, _) =>
        Work.change fun w =>
          let ids := if g.has 'R' then below w.files 100 id else [id]
          { w with files := ids.foldl (fun files id => files.change id fun node =>
              { node with mode :=
                (modeAfter? mode node.mode mask node.content.isDirectory).getD node.mode }) w.files }
        return true
where
  /-- A node and those below it. The number bounds the depth. -/
  below (files : Files) : Nat → Nat → List Nat
    | 0, id => [id]
    | fuel + 1, id => id :: (files.contentOf id).entries.flatMap fun (_, k) => below files fuel k

/-! ## Section 3: Making files -/

/-- Makes files, or says that they were changed now. -/
def touch : Deed Nat := do
  let g ← options <|
    [{ letter := 'c', name := "no-create" }, { letter := 'd', name := "date", takes := .value },
     { letter := 'r', name := "reference", takes := .value }, { letter := 't', takes := .value },
     { letter := 'h', name := "no-dereference" }] ++ flags "amf"
  if g.operands.isEmpty then misuse "missing file operand"
  forOperands g.operands fun name => do
    match ← nodeOf name with
    | .ok (id, _) =>
      Work.change fun w =>
        { w with files := w.files.change id fun node => { node with modified := w.now } }
      return true
    | .error .notFound =>
      if g.has 'c' then return true
      if name.endsWith "/" then
        complain ("setting times of " ++ quoteName name ++ ": No such file or directory")
        return false
      match ← Work.openFile name { writes := true, makes := true } with
      | .ok n =>
        Work.close n
        return true
      | .error f =>
        complain ("cannot touch " ++ quoteName name ++ ": " ++ f.message)
        return false
    | .error f =>
      complain ("cannot touch " ++ quoteName name ++ ": " ++ f.message)
      return false

/-- The paths that lead to a path, the shortest first. -/
def leadingPaths (path : String) : List String :=
  let cs := (withoutSlashes path).toList
  let ends := (List.range (cs.length + 1)).filter fun n =>
    n == cs.length || (n != 0 && cs[n]? == some '/' && cs[n - 1]? != some '/')
  (ends.map fun n => String.ofList (cs.take n)).filter fun s => !s.isEmpty

/-- Makes directories. -/
def mkdir : Deed Nat := do
  let g ← options
    [{ letter := 'p', name := "parents" }, { letter := 'v', name := "verbose" },
     { letter := 'm', name := "mode", takes := .value }]
  if g.operands.isEmpty then misuse "missing operand"
  let mask ← Work.look (·.self.mask)
  let mode ← match g.value? 'm' with
    | none => pure none
    | some s => match modeAfter? s 0o777 mask true with
      | some n => pure (some n)
      | none => abort ("invalid mode " ++ quote s)
  let make (path : String) (isLast : Bool) : Deed (Except Fault Unit) := do
    match ← makeAt path (fun _ place => .directory [] place.directory) 0o777 with
    | .error f => return .error f
    | .ok () =>
      if g.has 'v' then put (call_ (← read).name path)
      match mode, isLast with
      | some n, true =>
        match ← nodeOf path with
        | .ok (id, _) => Work.change fun w =>
            { w with files := w.files.change id fun node => { node with mode := n } }
        | .error _ => pure ()
      | _, _ => pure ()
      return .ok ()
  let refuse (path : String) (f : Fault) : Deed Bool := do
    complain ("cannot create directory " ++ quoteName path ++ ": " ++ f.message)
    return false
  forOperands g.operands fun path => do
    if g.has 'p' ∧ ¬ path.isEmpty then
      let paths := leadingPaths path
      let fault ← paths.foldlM (fun (fault : Option (String × Fault)) p => do
        if fault.isSome then return fault
        let isLast := p == withoutSlashes path
        match ← nodeOf p with
        | .ok (_, node) =>
          if node.content.isDirectory then return none
          else return some (p, if isLast then .alreadyThere else .notDirectory)
        | .error _ =>
          match ← make p isLast with
          | .ok () => return none
          | .error f => return some (p, f)) none
      match fault with
      | some (p, f) => refuse p f
      | none => return true
    else match ← make path true with
      | .ok () => return true
      | .error f => refuse path f
where
  /-- What is said about a directory that was made. -/
  call_ (name path : String) : String := name ++ ": created directory " ++ quoteName path ++ "\n"

/-- Makes pipes with names. -/
def mkfifo : Deed Nat := do
  let g ← options [{ letter := 'm', name := "mode", takes := .value }]
  if g.operands.isEmpty then misuse "missing operand"
  forOperands g.operands fun path => do
    match ← makeAt path (fun w _ => .pipe w.pipes.size) 0o666 with
    | .ok () =>
      Work.change fun w => { w with pipes := w.pipes.push {} }
      return true
    | .error f =>
      complain ("cannot create fifo " ++ quoteName path ++ ": " ++ f.message)
      return false

/-- Letters that depend on a number. -/
def lettersOf (n : Nat) : Nat → List Char
  | 0 => []
  | count + 1 =>
    let letters := "abcdefghijklmnopqrstuvwxyzABCDEFGHIJKLMNOPQRSTUVWXYZ0123456789".toList
    let next := (n * 6364136223846793005 + 1442695040888963407) % Nat.pow 2 64
    (letters[(next / Nat.pow 2 33) % letters.length]?).getD 'a' :: lettersOf next count

/-- Makes a file whose name is new. -/
def mktemp : Deed Nat := do
  let g ← options
    [{ letter := 'd', name := "directory" }, { letter := 'u', name := "dry-run" },
     { letter := 'q', name := "quiet" }, { letter := 'p', name := "tmpdir", takes := .value },
     { letter := 't' }, { letter := '\x01', name := "suffix", takes := .value }]
  let usual := ((← read).environment.lookup "TMPDIR").getD "/tmp"
  let directory := (g.value? 'p').getD usual
  let template ← match g.operands with
    | [] => pure (pathIn directory "tmp.XXXXXXXXXX")
    | [s] => pure (if g.has 'p' ∨ g.has 't' then pathIn directory s else s)
    | _ => misuse "too many templates"
  let cs := template.toList
  let behind := cs.reverse.takeWhile (· ≠ 'X')
  let marks := (cs.reverse.drop behind.length).takeWhile (· = 'X')
  if marks.length < 3 then
    abort ("too few X's in template " ++ quote (g.operands.head?.getD template))
  let seed ← Work.look fun w => w.clock + 1000003 * w.files.nodes.size + 7919 * w.current
  let name := String.ofList (cs.take (cs.length - behind.length - marks.length) ++
    lettersOf seed marks.length ++ behind.reverse)
  let kind := if g.has 'd' then "directory" else "file"
  let made ←
    if g.has 'u' then pure (.ok ())
    else if g.has 'd' then makeAt name (fun _ place => .directory [] place.directory) 0o700
    else makeAt name (fun _ _ => .regular .empty) 0o600
  match made with
  | .ok () =>
    put (name ++ "\n")
    return 0
  | .error f =>
    abort ("failed to create " ++ kind ++ " via template " ++ quote template ++ ": " ++ f.message)

/-! ## Section 4: Removing files -/

/-- Removes empty directories. -/
def rmdir : Deed Nat := do
  let g ← options
    [{ letter := 'p', name := "parents" }, { letter := 'v', name := "verbose" },
     { letter := 'i', name := "ignore-fail-on-non-empty" }]
  if g.operands.isEmpty then misuse "missing operand"
  let isEmpty : Content → Except Fault Unit
    | .directory [] _ => .ok ()
    | .directory _ _ => .error .notEmpty
    | _ => .error .notDirectory
  forOperands g.operands fun path => do
    let paths := if g.has 'p' then (leadingPaths path).reverse else [path]
    let result ← paths.foldlM (fun (isDone : Bool) p => do
      if ¬ isDone then return false
      if g.has 'v' then put ((← read).name ++ ": removing directory, " ++ quoteName p ++ "\n")
      match ← removeAt p isEmpty with
      | .ok () => return true
      | .error f =>
        if f = .notEmpty ∧ g.has 'i' then return true
        let kind := if p = path then "" else "directory "
        complain ("failed to remove " ++ kind ++ quoteName p ++ ": " ++ f.message)
        return false) true
    return result

/-- Says which names of a directory and below are removed. The number bounds the
    depth. -/
def removedNames (files : Files) : Nat → String → Nat → List String
  | 0, _, _ => []
  | fuel + 1, path, id =>
    match files.contentOf id with
    | .directory entries _ =>
      entries.flatMap (fun (name, k) => removedNames files fuel (pathIn path name) k) ++
        ["removed directory " ++ quoteName path]
    | _ => ["removed " ++ quoteName path]

/-- Removes files. -/
def rm : Deed Nat := do
  let g ← options
    [{ letter := 'f', name := "force" }, { letter := 'i' }, { letter := 'I' },
     { letter := 'r', name := "recursive" }, { letter := 'R' }, { letter := 'd', name := "dir" },
     { letter := 'v', name := "verbose" }, { letter := '\x01', name := "no-preserve-root" },
     { letter := '\x02', name := "preserve-root" },
     { letter := '\x03', name := "one-file-system" }]
  let isForced := g.last? "fi" == some 'f'
  if g.operands.isEmpty then
    if isForced then return 0 else misuse "missing operand"
  let isDeep := g.has 'r' || g.has 'R'
  forOperands g.operands fun path => do
    let refuse (f : Fault) : Deed Bool := do
      complain ("cannot remove " ++ quoteName path ++ ": " ++ f.message)
      return false
    match ← nodeOf (withoutSlashes path) false with
    | .error f =>
      if isForced ∧ (f = .notFound ∨ f = .notDirectory) then return true
      refuse (if path.endsWith "/" ∧ f = .notFound then .isDirectory else f)
    | .ok (id, node) =>
      let last := lastName path
      match node.content with
      | .directory entries _ =>
        if ¬ isDeep ∧ ¬ g.has 'd' then refuse .isDirectory
        else if last = "." ∨ last = ".." then
          complain ("refusing to remove '.' or '..' directory: skipping " ++ quoteName path)
          return false
        else if id = Files.root then
          complain "it is dangerous to operate recursively on '/'"
          complain "use --no-preserve-root to override this failsafe"
          return false
        else if ¬ isDeep ∧ ¬ entries.isEmpty then refuse .notEmpty
        else remove g path id
      | _ => if path.endsWith "/" then refuse .notDirectory else remove g path id
where
  /-- Takes a file away. -/
  remove (g : Given) (path : String) (id : Nat) : Deed Bool := do
    if g.has 'v' then
      let lines ← Work.look fun w => removedNames w.files 1000 (withoutSlashes path) id
      lines.forM fun s => put (s ++ "\n")
    match ← removeAt path fun _ => .ok () with
    | .ok () => return true
    | .error _ => return false

/-! ## Section 5: Copying and moving -/

/-- The place of a file that goes to a place, or into a directory. -/
def goalOf (source target : String) (isExact : Bool) : Deed String := do
  if ¬ isExact ∧ (← isDirectoryAt target) then return pathIn target (lastName source)
  else return target

/-- What a tool with sources and a goal is given. -/
def sourcesAndGoal (g : Given) : Deed (List String × String) := do
  match g.value? 't' with
  | some directory =>
    if g.operands.isEmpty then misuse "missing file operand"
    return (g.operands, directory)
  | none =>
    match g.operands.reverse with
    | [] => misuse "missing file operand"
    | [one] => misuse ("missing destination file operand after " ++ quoteName one)
    | goal :: sources =>
      if 1 < sources.length then
        match ← nodeOf goal with
        | .ok (_, node) =>
          if ¬ node.content.isDirectory then abort ("target " ++ quoteName goal ++ ": Not a directory")
        | .error f => abort ("target " ++ quoteName goal ++ ": " ++ f.message)
      return (sources.reverse, goal)

/-- Copies a node and those below it under a name. The number bounds the depth. -/
def copyTree : Nat → World → Nat → Nat → String → World
  | 0, w, _, _, _ => w
  | fuel + 1, w, id, directory, name =>
    match w.files.node? id with
    | none => w
    | some node =>
      match node.content with
      | .directory entries _ =>
        let there := (w.files.contentOf directory).entries.lookup name
        let (w, goal) := match there with
          | some goal => (w, goal)
          | none =>
            let (files, goal) := w.files.make directory name
              { node with content := .directory [] directory, modified := w.now }
            ({ w with files }, goal)
        entries.foldl (fun w (name, k) => copyTree fuel w k goal name) w
      | content =>
        { w with files := (w.files.make directory name
            { node with content, modified := w.now }).1 }

/-- Copies files. -/
def cp : Deed Nat := do
  let g ← options
    [{ letter := 'r', name := "recursive" }, { letter := 'R' }, { letter := 'a', name := "archive" },
     { letter := 'f', name := "force" }, { letter := 'i', name := "interactive" },
     { letter := 'n', name := "no-clobber" }, { letter := 'v', name := "verbose" },
     { letter := 'p' }, { letter := 'u' }, { letter := 'd' }, { letter := 'l', name := "link" },
     { letter := 's', name := "symbolic-link" }, { letter := 'L', name := "dereference" },
     { letter := 'P', name := "no-dereference" },
     { letter := 't', name := "target-directory", takes := .value },
     { letter := 'T', name := "no-target-directory" }]
  let (sources, goal) ← sourcesAndGoal g
  let isDeep := g.has 'r' || g.has 'R' || g.has 'a'
  if g.has 'n' then
    complain ("warning: behavior of -n is non-portable and may change in future; " ++
      "use --update=none instead")
  forOperands sources fun source => do
    let refuse (message : String) : Deed Bool := do
      complain message
      return false
    match ← nodeOf source (!isDeep || g.has 'L') with
    | .error f => refuse ("cannot stat " ++ quoteName source ++ ": " ++ f.message)
    | .ok (id, node) =>
      if node.content.isDirectory ∧ ¬ isDeep then
        refuse ("-r not specified; omitting directory " ++ quoteName source)
      else
        let path ← goalOf source goal (g.has 'T')
        let there ← nodeOf path
        let say_ : Deed Unit := do
          if g.has 'v' then put (quoteName source ++ " -> " ++ quoteName path ++ "\n")
        match there with
        | .ok (other, _) =>
          if g.has 'n' then return true
          else if other = id then
            refuse (quoteName source ++ " and " ++ quoteName path ++ " are the same file")
          else copy g source path id node there say_
        | .error _ => copy g source path id node there say_
where
  /-- Copies one file to a place. -/
  copy (g : Given) (source path : String) (id : Nat) (node : Node)
      (there : Except Fault (Nat × Node)) (say_ : Deed Unit) : Deed Bool := do
    let refuse (message : String) : Deed Bool := do
      complain message
      return false
    let isThereDirectory : Bool := match there with
      | .ok (_, other) => other.content.isDirectory
      | .error _ => false
    match node.content with
    | .regular bytes =>
      if isThereDirectory then
        refuse ("cannot overwrite directory " ++ quoteName path ++ " with non-directory")
      else match ← Work.openFile path { writes := true, makes := true, empties := true } node.mode with
        | .ok n =>
          let _ ← Work.write n bytes
          Work.close n
          say_
          return true
        | .error f => refuse ("cannot create regular file " ++ quoteName path ++ ": " ++ f.message)
    | .directory _ _ =>
      if there.toOption.isSome ∧ ¬ isThereDirectory then
        refuse ("cannot overwrite non-directory " ++ quoteName path ++ " with directory " ++
          quoteName source)
      else copyNode g path id say_
    | .device _ | .descriptor _ =>
      match ← bytesOf source with
      | .ok bytes =>
        match ← Work.openFile path { writes := true, makes := true, empties := true } with
        | .ok n =>
          let _ ← Work.write n bytes
          Work.close n
          say_
          return true
        | .error f => refuse ("cannot create regular file " ++ quoteName path ++ ": " ++ f.message)
      | .error f => refuse ("cannot open " ++ quoteName source ++ ": " ++ f.message)
    | _ => copyNode g path id say_
  /-- Copies a node with those below it to a place. -/
  copyNode (_g : Given) (path : String) (id : Nat) (say_ : Deed Unit) : Deed Bool := do
    let result ← Work.act fun w => match w.resolve (withoutSlashes path) with
      | .ok place => (.ok (), copyTree 1000 w id place.directory place.name)
      | .error f => (.error f, w)
    match (result : Except Fault Unit) with
    | .ok () =>
      say_
      return true
    | .error f =>
      complain ("cannot create directory " ++ quoteName path ++ ": " ++ f.message)
      return false

/-- Moves files. -/
def mv : Deed Nat := do
  let g ← options
    [{ letter := 'f', name := "force" }, { letter := 'i', name := "interactive" },
     { letter := 'n', name := "no-clobber" }, { letter := 'v', name := "verbose" }, { letter := 'u' },
     { letter := 't', name := "target-directory", takes := .value },
     { letter := 'T', name := "no-target-directory" }]
  let (sources, goal) ← sourcesAndGoal g
  forOperands sources fun source => do
    let refuse (message : String) : Deed Bool := do
      complain message
      return false
    match ← nodeOf (withoutSlashes source) false with
    | .error f => refuse ("cannot stat " ++ quoteName source ++ ": " ++ f.message)
    | .ok (id, node) =>
      let path ← goalOf source goal (g.has 'T')
      let there ← nodeOf (withoutSlashes path) false
      let isHere := node.content.isDirectory
      let isThere := match there with
        | .ok (_, other) => other.content.isDirectory
        | .error _ => false
      let isTaken := there.toOption.isSome
      let isSame := match there with
        | .ok (other, _) => other == id
        | .error _ => false
      if isSame then
        refuse (quoteName source ++ " and " ++ quoteName path ++ " are the same file")
      else if isTaken ∧ g.has 'n' then return true
      else if isTaken ∧ isThere ∧ ¬ isHere then
        refuse ("cannot overwrite directory " ++ quoteName path ++ " with non-directory")
      else if isTaken ∧ isHere ∧ ¬ isThere then
        refuse ("cannot overwrite non-directory " ++ quoteName path ++ " with directory " ++
          quoteName source)
      else
        let result ← changeFiles fun w => do
          let from_ ← w.resolve (withoutSlashes source) false
          let to_ ← w.resolve (withoutSlashes path) false
          let above := ancestors w.files 1000 to_.directory
          if above.contains id then throw .invalid
          if isThere then
            match to_.node with
            | some other =>
              if ¬ (w.files.contentOf other).entries.isEmpty then throw .notEmpty
            | none => pure ()
          let files := w.files.leave from_.directory from_.name
          let files := files.enter to_.directory to_.name id
          return files.change id fun node => match node.content with
            | .directory entries _ => { node with content := .directory entries to_.directory }
            | _ => node
        match result with
        | .ok () =>
          if g.has 'v' then
            put ("renamed " ++ quoteName source ++ " -> " ++ quoteName path ++ "\n")
          return true
        | .error .notEmpty =>
          refuse ("cannot overwrite " ++ quoteName path ++ ": " ++ Fault.notEmpty.message)
        | .error .invalid =>
          refuse ("cannot move " ++ quoteName source ++ " to a subdirectory of itself, " ++
            quoteName path)
        | .error f =>
          refuse ("cannot move " ++ quoteName source ++ " to " ++ quoteName path ++ ": " ++ f.message)
where
  /-- A directory and those above it. The number bounds the depth. -/
  ancestors (files : Files) : Nat → Nat → List Nat
    | 0, id => [id]
    | fuel + 1, id =>
      if id = Files.root then [id] else id :: ancestors files fuel (files.contentOf id).above

/-- Gives further names to files. -/
def ln : Deed Nat := do
  let g ← options
    [{ letter := 's', name := "symbolic" }, { letter := 'f', name := "force" },
     { letter := 'n', name := "no-dereference" }, { letter := 'v', name := "verbose" },
     { letter := 'r', name := "relative" }, { letter := 'i' }, { letter := 'L' }, { letter := 'P' },
     { letter := 't', name := "target-directory", takes := .value },
     { letter := 'T', name := "no-target-directory" }]
  let (sources, goal) ← match g.operands with
    | [one] => if g.has 't' then sourcesAndGoal g else pure ([one], ".")
    | _ => sourcesAndGoal g
  let isSymbolic := g.has 's'
  let kind := if isSymbolic then "symbolic" else "hard"
  forOperands sources fun source => do
    let refuse (message : String) : Deed Bool := do
      complain message
      return false
    let path ← goalOf source goal (g.has 'T' || (g.has 'n' && goal != "."))
    let node ← nodeOf source false
    match node, isSymbolic with
    | .error f, false => refuse ("failed to access " ++ quoteName source ++ ": " ++ f.message)
    | node, _ =>
      let isFolder : Bool := match node with
        | .ok (_, n) => n.content.isDirectory
        | .error _ => false
      if isFolder ∧ ¬ isSymbolic then
        refuse (source ++ ": hard link not allowed for directory")
      else
        if g.has 'f' then
          let _ ← removeAt path fun
            | .directory _ _ => .error .isDirectory
            | _ => .ok ()
        let made ← match node, isSymbolic with
          | .ok (id, _), false => changeFiles fun w => do
            let place ← w.resolve (withoutSlashes path) false
            if place.node.isSome then throw .alreadyThere
            return w.files.enter place.directory place.name id
          | _, _ => makeAt path (fun _ _ => .link source) 0o7777
        match made with
        | .ok () =>
          if g.has 'v' then
            let arrow := if isSymbolic then " -> " else " => "
            put (quoteName path ++ arrow ++ quoteName source ++ "\n")
          return true
        | .error f =>
          refuse ("failed to create " ++ kind ++ " link " ++ quoteName path ++ ": " ++ f.message)

end SimSweep.Tool
