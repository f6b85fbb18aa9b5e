import SimSweep.Kernel.Files
import SimSweep.Kernel.Signal
import SimSweep.Runner

/-! # The state of the system

    Files, open files, pipes and processes, and what was written to the streams of
    the process that was launched first. The operations here take effect at once;
    those that may have to wait are put together from them elsewhere.
-/

namespace SimSweep.Kernel

/-! ## Section 1: What there is -/

/-- What an open file leads to. -/
inductive Target where
  | node (id : Nat)
  /-- The end of a pipe that is read. -/
  | source (pipe : Nat)
  /-- The end of a pipe that is written. -/
  | drain (pipe : Nat)
  | stream (s : Stream)
  deriving DecidableEq

/-- An open file, with the place in it where the next byte is read or written. -/
structure Handle where
  target : Target
  reads : Bool
  writes : Bool
  /-- Whether everything is written behind the end. -/
  appends : Bool := false
  offset : Nat := 0

/-- A pipe: the bytes from `start` on are in it. -/
structure Pipe where
  bytes : ByteArray := .empty
  start : Nat := 0

/-- A number of a process that leads to an open file. -/
structure Descriptor where
  number : Nat
  handle : Nat
  /-- Whether it is closed when the process runs another program. -/
  isPrivate : Bool := false

/-- How a process ended. -/
inductive Exit where
  | status (code : Nat)
  | signal (number : Nat)
  deriving DecidableEq

/-- What a process is doing. -/
inductive Phase where
  | running
  | stopped (signal : Nat)
  | ended (exit : Exit)
  deriving DecidableEq

/-- A process. -/
structure Process where
  id : Nat
  parent : Nat
  descriptors : List Descriptor
  /-- The directory from which paths are seen. -/
  directory : Nat
  /-- The permission bits that new files do not get. -/
  mask : Nat := 0o022
  /-- The signals that it takes no notice of. -/
  ignored : List Nat := []
  /-- The signals that it handles itself. -/
  caught : List Nat := []
  /-- The signals that it has still to handle. -/
  pending : List Nat := []
  phase : Phase := .running
  /-- Whether its parent was not yet told that it stopped. -/
  stopIsNews : Bool := false
  niceness : Int := 0

/-- The state of the system. -/
structure World where
  files : Files
  handles : Array Handle := #[]
  pipes : Array Pipe := #[]
  processes : List Process
  /-- The process that is doing something. -/
  current : Nat
  nextProcess : Nat
  /-- The present moment for that process, in microseconds. -/
  clock : Nat := 0
  /-- Whether something has happened that others may have waited for. -/
  stirred : Bool := false
  /-- What was written to the streams, newest first. -/
  written : List (Stream × ByteArray) := []

namespace World

/-- The moment at which the clock starts, in seconds. -/
def epoch : Nat := 1700000000

/-! ## Section 2: Processes -/

/-- The process of a number. -/
def process? (w : World) (id : Nat) : Option Process := w.processes.find? (·.id == id)

/-- A process of which nothing is known. -/
def nobody : Process where
  id := 0
  parent := 0
  descriptors := []
  directory := Files.root

/-- The process that is doing something. -/
def self (w : World) : Process := (w.process? w.current).getD nobody

/-- Changes a process. -/
def changeProcess (w : World) (id : Nat) (f : Process → Process) : World :=
  { w with processes := w.processes.map fun p => if p.id == id then f p else p }

/-- Changes the process that is doing something. -/
def changeSelf (w : World) (f : Process → Process) : World := w.changeProcess w.current f

/-- Whether the process of a number is there and has not ended. -/
def isAlive (w : World) (id : Nat) : Bool :=
  match w.process? id with
  | some { phase := .ended _, .. } => false
  | some _ => true
  | none => false

/-- Tells a process that one of its children has changed. -/
def tellParent (w : World) (parent : Nat) : World :=
  w.changeProcess parent fun p =>
    if p.caught.contains 17 ∧ ¬ p.pending.contains 17 then
      { p with pending := p.pending ++ [17] }
    else p

/-- Ends a process. Its children go on without a parent; those of them that have
    ended are forgotten, and so is the process itself if nobody can ask for it. -/
def finish (w : World) (id : Nat) (exit : Exit) : World :=
  match w.process? id with
  | none => w
  | some process =>
    let orphaned := w.processes.filterMap fun p =>
      if p.id == id then some { p with phase := .ended exit, descriptors := [], pending := [] }
      else if p.parent == id then
        match p.phase with
        | .ended _ => none
        | _ => some { p with parent := 1 }
      else some p
    let kept :=
      if w.isAlive process.parent || process.parent == 0 then orphaned
      else orphaned.filter (·.id != id)
    tellParent { w with processes := kept, stirred := true } process.parent

/-- Forgets a process that has ended. -/
def forget (w : World) (id : Nat) : World :=
  { w with processes := w.processes.filter (·.id != id) }

/-- Sends a signal to a process. One that is handled waits until the process looks at
    it; the others take effect at once. -/
def signal (w : World) (id : Nat) (s : Signal) : World :=
  match w.process? id with
  | none => w
  | some p =>
    let w := if s.number = 18 then
        { w.changeProcess id fun p =>
            if p.phase matches .stopped _ then { p with phase := .running } else p with
          stirred := true }
      else w
    if p.phase matches .ended _ then w
    else if s.number = 9 then w.finish id (.signal 9)
    else if s.number = 19 then
      tellParent { w.changeProcess id fun p =>
          { p with phase := .stopped 19, stopIsNews := true } with stirred := true } p.parent
    else if p.ignored.contains s.number then w
    else if p.caught.contains s.number then
      { w.changeProcess id fun p =>
          if p.pending.contains s.number then p
          else { p with pending := p.pending ++ [s.number] } with
        stirred := true }
    else match s.effect with
      | .ends => w.finish id (.signal s.number)
      | .stops =>
        tellParent { w.changeProcess id fun p =>
          { p with phase := .stopped s.number, stopIsNews := true } with stirred := true } p.parent
      | .resumes | .none => w

/-- Makes a process like the one that is doing something. -/
def spawn (w : World) : World × Nat :=
  let id := w.nextProcess
  let child : Process := { w.self with id, parent := w.current, pending := [] }
  ({ w with processes := w.processes ++ [child], nextProcess := id + 1, stirred := true }, id)

/-! ## Section 3: Descriptors -/

/-- Where a descriptor of the present process leads. -/
def descriptor? (w : World) (number : Nat) : Option Descriptor :=
  w.self.descriptors.find? (·.number == number)

/-- The open file behind a descriptor of the present process. -/
def handle? (w : World) (number : Nat) : Option (Nat × Handle) := do
  let d ← w.descriptor? number
  let h ← w.handles[d.handle]?
  return (d.handle, h)

/-- Closes a descriptor. -/
def close (w : World) (number : Nat) : World :=
  { w.changeSelf fun p =>
      { p with descriptors := p.descriptors.filter (·.number != number) } with
    stirred := true }

/-- Leads a descriptor to an open file. -/
def lead (w : World) (number handle : Nat) (isPrivate : Bool := false) : World :=
  { w.changeSelf fun p => { p with descriptors :=
      ⟨number, handle, isPrivate⟩ :: p.descriptors.filter (·.number != number) } with
    stirred := true }

/-- The least number from some number on that is no descriptor. -/
def freeNumber (w : World) (least : Nat) : Nat :=
  let used := w.self.descriptors.map (·.number)
  ((List.range (used.length + 1)).find? fun n => !used.contains (least + n)).getD 0 + least

/-- Opens something and returns its descriptor. -/
def addHandle (w : World) (h : Handle) : World × Nat :=
  let number := w.freeNumber 0
  (lead { w with handles := w.handles.push h } number w.handles.size, number)

/-- Makes a descriptor that leads where another does. -/
def copyDescriptor (w : World) (source target : Nat) (isPrivate : Bool := false) :
    Except Fault World :=
  match w.descriptor? source with
  | some d => .ok (w.lead target d.handle isPrivate)
  | none => .error .badDescriptor

/-- Whether a process has an open file that leads to a target. -/
def leadsTo (w : World) (target : Target) : Bool :=
  w.processes.any fun p => p.descriptors.any fun d =>
    match w.handles[d.handle]? with
    | some h => h.target == target
    | none => false

/-- Makes a pipe and returns the descriptors of its ends: the one that is read and the
    one that is written. -/
def makePipe (w : World) : World × Nat × Nat :=
  let id := w.pipes.size
  let w := { w with pipes := w.pipes.push {} }
  let (w, source) := w.addHandle { target := .source id, reads := true, writes := false }
  let (w, drain) := w.addHandle { target := .drain id, reads := false, writes := true }
  (w, source, drain)

/-! ## Section 4: Files -/

/-- The time that new contents of a file get. -/
def now (w : World) : Int := epoch * 1000000 + w.clock

/-- The place that a path names for the present process. -/
def resolve (w : World) (path : String) (follows : Bool := true) : Except Fault Place :=
  w.files.resolve w.self.directory path follows

/-- The node that a path names for the present process. A file that stands for a
    descriptor is there only if the descriptor is. -/
def find (w : World) (path : String) (follows : Bool := true) : Except Fault Nat := do
  let id ← w.files.find w.self.directory path follows
  match w.files.contentOf id with
  | .descriptor n =>
    match w.handle? n with
    | none => throw .notFound
    | some (_, h) => match h.target with
      | .node id => return id
      | _ => return id
  | _ => return id

/-- What a file is opened for. -/
structure Opening where
  reads : Bool := false
  writes : Bool := false
  /-- Whether a file that is not there is made. -/
  makes : Bool := false
  /-- Whether a file that is there must not be. -/
  isNew : Bool := false
  /-- Whether the contents are thrown away. -/
  empties : Bool := false
  appends : Bool := false

/-- Opens a node. -/
def openNode (w : World) (id : Nat) (o : Opening) : Except Fault (World × Nat) :=
  let usual : Handle := { target := .node id, reads := o.reads, writes := o.writes
                          appends := o.appends }
  match w.files.contentOf id with
  | .directory _ _ => if o.writes then .error .isDirectory else .ok (w.addHandle usual)
  | .device .terminal => .error .noSuchDevice
  | .descriptor n =>
    match w.handle? n with
    | none => .error .notFound
    | some (_, h) => match h.target with
      | .node id => .ok (w.addHandle { usual with target := .node id })
      | .source p | .drain p =>
        .ok (w.addHandle { usual with target := if o.writes then .drain p else .source p })
      | .stream s => .ok (w.addHandle { usual with target := .stream s })
  | .pipe p => .ok (w.addHandle { usual with target := if o.writes then .drain p else .source p })
  | .program _ => if o.writes then .error .textBusy else .ok (w.addHandle usual)
  | .regular _ =>
    let w := if o.empties then
        { w with files := w.files.change id fun node =>
            { node with content := .regular .empty, modified := w.now } }
      else w
    .ok (w.addHandle usual)
  | _ => .ok (w.addHandle usual)

/-- Opens the file of a path and returns its descriptor. A new file gets the
    permissions that the mask of the process leaves. -/
def openFile (w : World) (path : String) (o : Opening) (mode : Nat := 0o666) :
    Except Fault (World × Nat) := do
  let place ← w.resolve path
  match place.node with
  | some id =>
    if o.makes ∧ o.isNew then throw .alreadyThere
    w.openNode id o
  | none =>
    if ¬ o.makes then throw .notFound
    if path.endsWith "/" then throw .isDirectory
    let mode := mode &&& (0o777 ^^^ (w.self.mask &&& 0o777))
    let (files, id) := w.files.make place.directory place.name
      { content := .regular .empty, mode, modified := w.now }
    openNode { w with files } id o

/-- The bytes at the place where an open file is read, at most some number of them. -/
def bytesAt (w : World) (h : Handle) (count : Nat) : Except Fault ByteArray :=
  match h.target with
  | .node id =>
    match w.files.contentOf id with
    | .regular bytes => .ok (bytes.extract h.offset (h.offset + count))
    | .directory _ _ => .error .isDirectory
    | .device .null => .ok .empty
    | .device .random =>
      .ok ((List.range count).foldl (fun bytes n =>
        bytes.push (UInt8.ofNat ((h.offset + n) * 2654435761 / 65536 + w.clock))) .empty)
    | .device _ => .ok ((List.range count).foldl (fun bytes _ => bytes.push 0) .empty)
    | .program name => .ok ((("\x7fELF" ++ name).toUTF8).extract h.offset (h.offset + count))
    | _ => .error .invalid
  | .source p =>
    match w.pipes[p]? with
    | some pipe => .ok (pipe.bytes.extract pipe.start (pipe.start + count))
    | none => .ok .empty
  | .drain _ => .error .badDescriptor
  | .stream _ => .ok .empty

/-- Moves on from bytes that were read. -/
def advance (w : World) (handle : Nat) (h : Handle) (count : Nat) : World :=
  match h.target with
  | .source p =>
    { w with
      stirred := true
      pipes := w.pipes.modify p fun pipe =>
        let start := pipe.start + count
        if pipe.bytes.size ≤ start then {}
        else if 65536 ≤ start then ⟨pipe.bytes.extract start pipe.bytes.size, 0⟩
        else { pipe with start } }
  | _ => { w with handles := w.handles.modify handle fun h => { h with offset := h.offset + count } }

/-- How many bytes a pipe has room for. -/
def pipeLimit : Nat := 65536

/-- How many bytes are in a pipe. -/
def pipeSize (w : World) (p : Nat) : Nat :=
  match w.pipes[p]? with
  | some pipe => pipe.bytes.size - pipe.start
  | none => 0

/-- Contents with bytes at a place; what lies between is filled with zeros. -/
def overlay (old new : ByteArray) (offset : Nat) : ByteArray :=
  let padded := (List.range (offset - old.size)).foldl (fun bytes _ => bytes.push 0) old
  if padded.size = offset then padded ++ new
  else padded.extract 0 offset ++ new ++ padded.extract (offset + new.size) padded.size

/-- Writes bytes to an open file, which takes all of them. -/
def put (w : World) (handle : Nat) (h : Handle) (bytes : ByteArray) : Except Fault World :=
  match h.target with
  | .stream s => .ok { w with written := (s, bytes) :: w.written }
  | .drain p =>
    .ok { w with
      stirred := true
      pipes := w.pipes.modify p fun pipe => { pipe with bytes := pipe.bytes ++ bytes } }
  | .source _ => .error .badDescriptor
  | .node id =>
    match w.files.contentOf id with
    | .device .full => .error .noSpace
    | .device _ => .ok w
    | .regular old =>
      let offset := if h.appends then old.size else h.offset
      let now := w.now
      .ok { w with
        files := w.files.change id fun node => match node with
          | ⟨.regular old, mode, _⟩ => ⟨.regular (overlay old bytes offset), mode, now⟩
          | other => other
        handles := w.handles.modify handle fun h => { h with offset := offset + bytes.size } }
    | _ => .error .invalid

end World

end SimSweep.Kernel
