import SimSweep.Shell.Expansion

/-! # Redirections

    The words of redirections are expanded first; then the descriptors are led to
    their files in order. What a descriptor led to before is put aside, so that it can
    be brought back behind the command.
-/

namespace SimSweep.Shell

open Kernel

/-- A redirection whose words are expanded. -/
inductive Ready where
  | file (descriptor : Nat) (direction : Direction) (path : String)
  /-- It becomes a copy of another descriptor, or is closed. -/
  | copy (descriptor : Nat) (source : Option Nat)
  | document (descriptor : Nat) (number : Nat)
  | text (descriptor : Nat) (s : String)

/-- The descriptor that a redirection is about. -/
def Ready.descriptor : Ready → Nat
  | .file d _ _ | .copy d _ | .document d _ | .text d _ => d

/-- The descriptor in a text, or none for a dash. -/
def sourceOf (target : String) : Run (Option Nat) := do
  match target.toList with
  | ['-'] => return none
  | [c] => if c.isDigit then return some (c.toNat - '0'.toNat)
  | _ => pure ()
  if (← get).dialect = .rich then
    if ¬ target.isEmpty ∧ target.toList.all Char.isDigit then
      return some (Decimal.valueOf target.toList)
    fail (target ++ ": ambiguous redirect")
  fail "Syntax error: Bad fd number"

/-- The words of a word as they are shown in a complaint. -/
def shownTerm (term : Term) : String :=
  String.join (term.map fun
    | .text cs _ => String.ofList cs
    | .parameter name _ _ _ => "$" ++ name
    | _ => "")

/-- The path that a word stands for; it has to be one path in the rich dialect. -/
def expandPath (substitute : Substitution) (target : Term) : Run String := do
  if (← get).dialect = .plain then return ← expandText substitute target
  match ← expandFields substitute target with
  | [path] => return path
  | _ => failPlainly (shownTerm target ++ ": ambiguous redirect")

/-- Expands the words of redirections. -/
def expandRedirections (substitute : Substitution) (rs : List Redirection) :
    Run (List Ready) :=
  return (← rs.mapM expandOne).flatten
where
  /-- Expands the words of a redirection. -/
  expandOne : Redirection → Run (List Ready)
    | .file descriptor direction target =>
      return [.file descriptor direction (← expandPath substitute target)]
    | .duplicate descriptor _ target =>
      return [.copy descriptor (← sourceOf (← expandText substitute target))]
    | .document descriptor number _ => return [.document descriptor number]
    | .line descriptor word =>
      return [.text descriptor ((← expandText substitute word) ++ "\n")]
    | .both isAppended target => do
      let path ← expandPath substitute target
      return [.file 1 (if isAppended then .append else .write) path, .copy 2 (some 1)]

/-- What is wrong with a file that cannot be opened, or made. -/
def openingFault (dialect : Dialect) (makes : Bool) (path : String) (f : Fault) : String :=
  match dialect with
  | .rich =>
    if f = .alreadyThere then path ++ ": cannot overwrite existing file"
    else path ++ ": " ++ f.message
  | .plain =>
    let reason := match f with
      | .notFound | .notDirectory => if makes then "Directory nonexistent" else "No such file"
      | f => f.message
    "cannot " ++ (if makes then "create " else "open ") ++ path ++ ": " ++ reason

/-- Ends what is being run because a file cannot be opened, or made. -/
def failOpening {α : Type} (makes : Bool) (path : String) (f : Fault) : Run α := do
  match (← get).dialect with
  | .rich => failPlainly (openingFault .rich makes path f)
  | .plain => fail (openingFault .plain makes path f)

/-- Whether a path leads to a file with contents of its own. -/
def isPlainFile (w : World) (path : String) : Bool :=
  match w.find path with
  | .ok id => (w.files.contentOf id matches .regular _) || (w.files.contentOf id matches .program _)
  | .error _ => false

/-- Opens the file of a redirection and returns its descriptor. -/
def openTarget (direction : Direction) (path : String) : Run Nat := do
  let make (o : World.Opening) : Run Nat := do
    match ← Work.openFile path o with
    | .ok n => return n
    | .error f => failOpening true path f
  match direction with
  | .read =>
    match ← Work.openFile path { reads := true } with
    | .ok n => return n
    | .error f => failOpening false path f
  | .readOrMake => make { reads := true, writes := true, makes := true }
  | .append => make { writes := true, makes := true, appends := true }
  | .overwrite => make { writes := true, makes := true, empties := true }
  | .write =>
    if (← get).isOn "noclobber" then
      let (isThere, isPlain) ← Work.look fun w => ((w.find path).isOk, isPlainFile w path)
      if isPlain then failOpening true path .alreadyThere
      else if isThere then make { writes := true }
      else make { writes := true, makes := true, isNew := true }
    else make { writes := true, makes := true, empties := true }

/-- The least descriptor for what is put aside. -/
def asideLimit : Nat := 10

/-- Puts a descriptor aside in the newest row of saved ones, unless it already is. -/
def putAside (descriptor : Nat) : Run Unit := do
  let m ← get
  match m.saved with
  | [] => pure ()
  | row :: rows =>
    if row.any (·.number == descriptor) then return
    let copy ← Work.act fun w =>
      match w.descriptor? descriptor with
      | none => (none, w)
      | some d =>
        let n := w.freeNumber asideLimit
        (some n, (w.lead n d.handle true).close descriptor)
    set { m with saved := (⟨descriptor, copy⟩ :: row) :: rows }

/-- Leads a descriptor to where another one leads, which is closed. -/
def moveDescriptor (source target : Nat) : Run Unit :=
  if source = target then pure ()
  else Work.change fun w =>
    match w.copyDescriptor source target with
    | .ok w => w.close source
    | .error _ => w

/-- Carries out a redirection. -/
def carryOut (substitute : Substitution) (r : Ready) : Run Unit := do
  match r with
  | .file descriptor direction path =>
    let n ← openTarget direction path
    if n = descriptor then
      modify fun m => match m.saved with
        | row :: rows =>
          if row.any (·.number == descriptor) then m
          else { m with saved := (⟨descriptor, none⟩ :: row) :: rows }
        | [] => m
    else
      putAside descriptor
      moveDescriptor n descriptor
  | .copy descriptor none =>
    putAside descriptor
    Work.close descriptor
  | .copy descriptor (some source) =>
    if source = descriptor then return
    putAside descriptor
    let result ← Work.act fun w =>
      match w.copyDescriptor source descriptor with
      | .ok w => (none, w)
      | .error f => (some f, w)
    match result with
    | some f => fail (numberText source ++ ": " ++ f.message)
    | none => pure ()
  | .document descriptor number =>
    let s ← expandDocument substitute (((← get).documents.lookup number).getD [])
    offer descriptor s
  | .text descriptor s => offer descriptor s
where
  /-- Lets a descriptor read a text. -/
  offer (descriptor : Nat) (s : String) : Run Unit := do
    let n ← Work.act fun w =>
      let (w, source, drain) := w.makePipe
      let w := match w.handle? drain with
        | some (id, h) => match w.put id h (Octets.toBytes s) with
          | .ok w => w
          | .error _ => w
        | none => w
      (source, w.close drain)
    if n ≠ descriptor then putAside descriptor
    moveDescriptor n descriptor

/-- Brings back the descriptors that were put aside last, or lets them go. -/
def bringBack (drops : Bool) : Run Unit := do
  let m ← get
  match m.saved with
  | [] => pure ()
  | row :: rows =>
    set { m with saved := rows }
    if row.isEmpty then return
    Work.change fun w => row.foldl (fun w s =>
      match s.copy, drops with
      | some n, true => w.close n
      | none, true => w
      | some n, false =>
        match w.copyDescriptor n s.number with
        | .ok w => w.close n
        | .error _ => w
      | none, false => w.close s.number) w

/-- Carries out redirections in order, in a new row of saved descriptors. The result is
    whether all could be. -/
def redirect (substitute : Substitution) (rs : List Ready) : Run Bool := do
  modify fun m => { m with saved := [] :: m.saved }
  tryCatch (do
    rs.forM (carryOut substitute)
    return true) fun
    | .failed => return false
    | e => throw e

/-- Runs an action with redirections, which are taken back at its end. Where they cannot
    be carried out, the status says so. -/
def redirected (substitute : Substitution) (rs : List Redirection) (action : Run Unit) :
    Run Unit := do
  if rs.isEmpty then action
  else
    let ready ← expandRedirections substitute rs
    let isDone ← redirect substitute ready
    let result ← tryCatch (do
      if isDone then action
      else setStatus (if (← get).dialect = .rich then 1 else 2)
      return none) fun e => return some e
    bringBack false
    match result with
    | some e => throw e
    | none => pure ()

end SimSweep.Shell
