import SimSweep.Shell.Pattern
import SimSweep.Tool.Listing
import SimSweep.Tool.Running

/-! # Finding files

    The files below some directories are gone through, and for each one conditions are
    tested, some of which also do something.
-/

namespace SimSweep.Tool.Finding

open Kernel Tool

/-! ## Section 1: Conditions -/

/-- How a number is compared. -/
inductive Than where
  | exactly (n : Nat)
  | more (n : Nat)
  | less (n : Nat)

/-- A condition on a file. -/
inductive Condition where
  | name (pattern : String) (ignoresCase : Bool)
  | path (pattern : String)
  | kind (letters : List Char)
  | empty
  | size (than : Than) (unit : Nat)
  | newer (moment : Int)
  | mode (bits : Nat)
  | constant (b : Bool)
  | show (ending : String)
  | format (s : String)
  | remove
  | run (command : List String) (isAtOnce : Bool)
  | prune
  | quit
  | not (c : Condition)
  | and (a b : Condition)
  | or (a b : Condition)
  | list (a b : Condition)

/-- Whether a condition does something. -/
def Condition.acts : Condition → Bool
  | .show _ | .format _ | .remove | .run _ _ | .quit => true
  | .not c => c.acts
  | .and a b | .or a b | .list a b => a.acts || b.acts
  | _ => false

/-- What is asked for. -/
structure Query where
  condition : Condition
  least : Nat := 0
  most : Option Nat := none
  isDeepFirst : Bool := false

/-- The arguments that are left, with the options that were read. -/
structure Reading where
  rest : List String
  query : Query := { condition := .constant true }

/-- A reader of conditions. -/
abbrev Reader (α : Type) := StateT Reading (Except String) α

/-- Takes the next argument. -/
def next? : Reader (Option String) := modifyGet fun s =>
  match s.rest with
  | a :: rest => (some a, { s with rest })
  | [] => (none, s)

/-- Takes the value of a condition. -/
def valueFor (name : String) : Reader String := do
  match ← next? with
  | some s => return s
  | none => throw ("missing argument to \x60" ++ name ++ "'")

/-- The comparison that a text denotes, and what follows the number. -/
def thanOf? (s : String) : Option (Than × String) :=
  let (make, cs) : (Nat → Than) × List Char := match s.toList with
    | '+' :: cs => (.more, cs)
    | '-' :: cs => (.less, cs)
    | cs => (.exactly, cs)
  let ds := cs.takeWhile Char.isDigit
  if ds.isEmpty then none else some (make (Decimal.valueOf ds), String.ofList (cs.drop ds.length))

/-- Whether a number is as it has to be. -/
def Than.holds (t : Than) (n : Nat) : Bool :=
  match t with
  | .exactly k => n == k
  | .more k => k < n
  | .less k => n < k

/-- The words of a command up to its end. -/
def commandOf : Nat → Reader (List String × Bool)
  | 0 => throw "missing argument to \x60-exec'"
  | fuel + 1 => do
    match ← next? with
    | none => throw "missing argument to \x60-exec'"
    | some ";" => return ([], false)
    | some a =>
      if a = "\x7b\x7d" ∧ (← get).rest.head? = some "+" then
        let _ ← next?
        return ([], true)
      let (more, isAtOnce) ← commandOf fuel
      return (a :: more, isAtOnce)

mutual

/-- Reads conditions with commas between them. -/
def readList : Nat → Reader Condition
  | 0 => throw "too many conditions"
  | fuel + 1 => do
    let a ← readOr fuel
    if (← get).rest.head? = some "," then
      let _ ← next?
      return .list a (← readList fuel)
    else return a

/-- Reads conditions of which one has to hold. -/
def readOr : Nat → Reader Condition
  | 0 => throw "too many conditions"
  | fuel + 1 => do
    let a ← readAnd fuel
    match (← get).rest.head? with
    | some "-o" | some "-or" =>
      let _ ← next?
      return .or a (← readOr fuel)
    | _ => return a

/-- Reads conditions that all have to hold. -/
def readAnd : Nat → Reader Condition
  | 0 => throw "too many conditions"
  | fuel + 1 => do
    let a ← readOne fuel
    match (← get).rest.head? with
    | none | some "-o" | some "-or" | some ")" | some "," => return a
    | some "-a" | some "-and" =>
      let _ ← next?
      return .and a (← readAnd fuel)
    | some _ => return .and a (← readAnd fuel)

/-- Reads one condition. -/
def readOne : Nat → Reader Condition
  | 0 => throw "too many conditions"
  | fuel + 1 => do
    match ← next? with
    | none => throw "expected an expression"
    | some "(" =>
      let c ← readList fuel
      match ← next? with
      | some ")" => return c
      | _ => throw "invalid expression; I was expecting to find a ')' somewhere but did not see one."
    | some "!" | some "-not" => return .not (← readOne fuel)
    | some "-name" => return .name (← valueFor "-name") false
    | some "-iname" => return .name (← valueFor "-iname") true
    | some "-path" => return .path (← valueFor "-path")
    | some "-type" =>
      let s ← valueFor "-type"
      return .kind (s.toList.filter (· ≠ ','))
    | some "-empty" => return .empty
    | some "-true" => return .constant true
    | some "-false" => return .constant false
    | some "-print" => return .show "\n"
    | some "-print0" => return .show "\x00"
    | some "-printf" => return .format (← valueFor "-printf")
    | some "-delete" =>
      modify fun s => { s with query := { s.query with isDeepFirst := true } }
      return .remove
    | some "-prune" => return .prune
    | some "-quit" => return .quit
    | some "-depth" =>
      modify fun s => { s with query := { s.query with isDeepFirst := true } }
      return .constant true
    | some "-maxdepth" =>
      let s ← valueFor "-maxdepth"
      match s.toNat? with
      | some n =>
        modify fun r => { r with query := { r.query with most := some n } }
        return .constant true
      | none => throw ("Expected a positive decimal integer argument to -maxdepth, but got " ++ quoteName s)
    | some "-mindepth" =>
      let s ← valueFor "-mindepth"
      match s.toNat? with
      | some n =>
        modify fun r => { r with query := { r.query with least := n } }
        return .constant true
      | none => throw ("Expected a positive decimal integer argument to -mindepth, but got " ++ quoteName s)
    | some "-size" =>
      let s ← valueFor "-size"
      match thanOf? s with
      | some (t, unit) =>
        let units := [("", 512), ("b", 512), ("c", 1), ("w", 2), ("k", 1024), ("M", 1048576)]
        match units.lookup unit with
        | some n => return .size t n
        | none => throw ("Invalid argument \x60" ++ s ++ "' to -size")
      | none => throw ("Invalid argument \x60" ++ s ++ "' to -size")
    | some "-perm" =>
      let s ← valueFor "-perm"
      let ds := s.toList.filter Char.isDigit
      return .mode (Nat.ofDigitChars 8 ds 0)
    | some "-exec" =>
      let (command, isAtOnce) ← commandOf ((← get).rest.length + 1)
      return .run command isAtOnce
    | some a =>
      if a.startsWith "-" then throw ("unknown predicate \x60" ++ a ++ "'")
      else throw ("paths must precede expression: \x60" ++ a ++ "'")

end

/-! ## Section 2: Going through files -/

/-- A file that is looked at. -/
structure Item where
  path : String
  id : Nat
  depth : Nat

/-- What came of a file. -/
structure Outcome where
  holds : Bool
  isPruned : Bool := false
  isLast : Bool := false
  failed : Bool := false

/-- Whether a name fits a pattern. -/
def fits (pattern name : String) (ignoresCase : Bool) : Bool :=
  let turn (s : String) : List Char := (if ignoresCase then s.map Char.toLower else s).toList
  Shell.Pattern.accepts ((turn pattern).map (·, false)) (turn name)

/-- Runs a command for a file. -/
def runFor (host : Host) (command : List String) (path : String) : Deed Bool := do
  let call ← read
  let words := command.map fun w =>
    String.ofList (replaceIn ['\x7b', '\x7d'] path.toList (w.length + 1) w.toList)
  match words with
  | [] => return true
  | name :: args =>
    let child ← Work.fork do
      match ← runProgram host call.environment name args with
      | .ok n => return n
      | .error f =>
        let _ ← Work.writeText 2 (call.name ++ ": " ++ quoteName name ++ ": " ++ f.message ++ "\n")
        return unrunStatus f
    return (← Work.waitFor child) == .status 0

/-- Tests a condition for a file. The files for commands that are run once are kept. -/
def test (host : Host) (item : Item) : Condition → StateT (List (List String × String)) Deed Outcome
  | .not c => do
    let o ← test host item c
    return { o with holds := !o.holds }
  | .and a b => do
    let o ← test host item a
    if o.holds ∧ ¬ o.isLast then
      let p ← test host item b
      return { p with isPruned := o.isPruned || p.isPruned, failed := o.failed || p.failed }
    else return o
  | .or a b => do
    let o ← test host item a
    if o.holds ∨ o.isLast then return o
    else
      let p ← test host item b
      return { p with isPruned := o.isPruned || p.isPruned, failed := o.failed || p.failed }
  | .list a b => do
    let o ← test host item a
    let p ← test host item b
    return { p with isPruned := o.isPruned || p.isPruned, failed := o.failed || p.failed }
  | c => do
    let files ← (Work.look (·.files) : Deed Files)
    let content := files.contentOf item.id
    let mode := ((files.node? item.id).map Node.mode).getD 0
    match c with
    | .name pattern ignoresCase => return { holds := fits pattern (lastName item.path) ignoresCase }
    | .path pattern => return { holds := fits pattern item.path false }
    | .kind letters =>
      let letter := if kindLetter content = '-' then 'f' else kindLetter content
      return { holds := letters.contains letter }
    | .empty =>
      return { holds := match content with
        | .directory entries _ => entries.isEmpty
        | .regular bytes => bytes.isEmpty
        | _ => false }
    | .size than unit => return { holds := than.holds ((sizeOf content + unit - 1) / unit) }
    | .mode bits => return { holds := mode == bits }
    | .newer moment =>
      return { holds := decide (moment < ((files.node? item.id).map Node.modified).getD 0) }
    | .constant b => return { holds := b }
    | .show ending =>
      (put (item.path ++ ending) : Deed Unit)
      return { holds := true }
    | .format s =>
      (put (formatted item content mode s.toList) : Deed Unit)
      return { holds := true }
    | .remove =>
      match ← (removeAt item.path fun
          | .directory (_ :: _) _ => .error .notEmpty
          | _ => .ok () : Deed (Except Fault Unit)) with
      | .ok () => return { holds := true }
      | .error f =>
        (complain ("cannot delete " ++ quoteName item.path ++ ": " ++ f.message) : Deed Unit)
        return { holds := false, failed := true }
    | .run command isAtOnce =>
      if isAtOnce then
        modify (· ++ [(command, item.path)])
        return { holds := true }
      else return { holds := ← (runFor host command item.path : Deed Bool) }
    | .prune => return { holds := true, isPruned := true }
    | .quit => return { holds := true, isLast := true }
    | _ => return { holds := true }
where
  /-- A file in a format. -/
  formatted (item : Item) (content : Content) (mode : Nat) : List Char → String
    | '%' :: c :: rest =>
      let body := match c with
        | 'p' => item.path
        | 'f' => lastName item.path
        | 'h' => withoutLastName item.path
        | 's' => digits (sizeOf content)
        | 'd' => digits item.depth
        | 'm' => String.ofList (Nat.toDigits 8 mode)
        | 'y' => String.singleton (if kindLetter content = '-' then 'f' else kindLetter content)
        | '%' => "%"
        | c => "%" ++ String.singleton c
      body ++ formatted item content mode rest
    | '\\' :: 'n' :: rest => "\n" ++ formatted item content mode rest
    | '\\' :: 't' :: rest => "\t" ++ formatted item content mode rest
    | '\\' :: '0' :: rest => "\x00" ++ formatted item content mode rest
    | c :: rest => String.singleton c ++ formatted item content mode rest
    | [] => ""

/-- Goes through a file and those below it. The first number bounds the depth. -/
def visit (host : Host) (q : Query) :
    Nat → List Item → StateT (List (List String × String)) Deed Outcome
  | 0, _ => return { holds := true }
  | _, [] => return { holds := true }
  | fuel + 1, item :: rest => do
    let own : StateT (List (List String × String)) Deed Outcome := do
      if item.depth < q.least then return { holds := true } else test host item q.condition
    let inner (isPruned : Bool) : StateT (List (List String × String)) Deed Outcome := do
      if isPruned ∨ q.most.any (· ≤ item.depth) then return { holds := true }
      else
        let files ← (Work.look (·.files) : Deed Files)
        visit host q fuel ((files.contentOf item.id).entries.map fun (name, id) =>
          { path := pathIn item.path name, id, depth := item.depth + 1 })
    let (a, b) ← if q.isDeepFirst then do
        let b ← inner false
        if b.isLast then pure (b, b) else pure (← own, b)
      else do
        let a ← own
        if a.isLast then pure (a, a) else pure (a, ← inner a.isPruned)
    if a.isLast ∨ b.isLast then return { holds := true, isLast := true }
    let o ← visit host q fuel rest
    return { o with failed := o.failed || a.failed || b.failed }

/-- Finds files. -/
def tool (host : Host) : Deed Nat := do
  let call ← read
  let args := call.args.dropWhile fun a => a == "-H" || a == "-L" || a == "-P"
  let paths := args.takeWhile fun a =>
    !(a.startsWith "-" && 1 < a.length) && a != "(" && a != ")" && a != "!" && a != ","
  let conditions := args.drop paths.length
  let query ← match conditions with
    | [] => pure ({ condition := .show "\n" } : Query)
    | _ =>
      match (readList (8 * conditions.length + 8)).run { rest := conditions } with
      | .error message => abort message
      | .ok (c, r) =>
        match r.rest with
        | a :: _ => abort (if a = ")" then
            "invalid expression; you have too many ')'" else "unexpected argument " ++ quoteName a)
        | [] =>
          let c := if c.acts then c else .and c (.show "\n")
          pure { r.query with condition := c }
  let roots := if paths.isEmpty then ["."] else paths
  let results ← roots.mapM fun path => do
    match ← nodeOf path false with
    | .error f =>
      complain (quoteName path ++ ": " ++ f.message)
      return false
    | .ok (id, _) =>
      let (o, once) ← (visit host query 1000000 [{ path, id, depth := 0 }]).run []
      let commands := (once.map Prod.fst).eraseDups
      let ends ← commands.mapM fun command => do
        let found := (once.filter fun (c, _) => c == command).map Prod.snd
        runFor host (command ++ found) ""
      return !o.failed && ends.all (· == true)
  return if results.all (· == true) then 0 else 1

end SimSweep.Tool.Finding
