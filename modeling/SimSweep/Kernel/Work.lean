import SimSweep.Kernel.Octets
import SimSweep.Kernel.World

/-! # Work

    What a process does is its *behavior*: a tree of steps, each of which changes the
    state of the system, waits for something, or starts another process. A piece of
    *work* is a part of a behavior, which hands its result to what follows. Steps of
    several processes can be interleaved in any way, since nothing happens between
    them.
-/

namespace SimSweep.Kernel

/-- What a process is going to do. -/
inductive Behavior where
  /-- It changes the state of the system. -/
  | step (act : World → World × Behavior)
  /-- It waits until something is the case, or until some moment. -/
  | await (ready : World → Bool) (moment : Option Nat) (rest : Behavior)
  /-- It starts a process that is already known to the system. -/
  | start (id : Nat) (body rest : Behavior)
  /-- It has ended. -/
  | finish

/-- A part of a behavior with a result. -/
def Work (α : Type) : Type := (α → Behavior) → Behavior

namespace Work

instance : Monad Work where
  pure a := fun k => k a
  bind x f := fun k => x fun a => f a k

/-! ## Section 1: Steps -/

/-- Changes the state of the system. -/
def act {α : Type} (f : World → α × World) : Work α := fun k =>
  .step fun w => let (a, w) := f w; (w, k a)

/-- Looks at the state of the system. -/
def look {α : Type} (f : World → α) : Work α := fun k => .step fun w => let a := f w; (w, k a)

/-- Changes the state of the system without a result. -/
def change (f : World → World) : Work Unit := fun k => .step fun w => (f w, k ())

/-- Lets time pass, in microseconds, in which the process is busy. -/
def spend (time : Nat) : Work Unit := change fun w => { w with clock := w.clock + time }

/-- Waits until something is the case, or until some moment. -/
def await (ready : World → Bool) (moment : Option Nat := none) : Work Unit := fun k =>
  .await ready moment (k ())

/-- Lets others go on if they are behind. -/
def pause : Work Unit := change fun w => { w with stirred := true }

/-- Ends the process. -/
def exit {α : Type} (code : Nat) : Work α := fun _ =>
  .step fun w => (w.finish w.current (.status (code % 256)), .finish)

/-- The time that it takes to start a process, and to run another program in one. -/
def startTime : Nat := 60

/-- The time until a new process does something. -/
def startDelay : Nat := 150

/-- The time that it takes to run another program. -/
def runTime : Nat := 500

/-- Starts a process that does some work and ends with its result as status. The
    result is its number. -/
def fork (body : Work Nat) : Work Nat := fun k =>
  .step fun w =>
    let (w, id) := w.spawn
    let child : Behavior :=
      spend startDelay fun () => body fun code => exit (α := Unit) code fun _ => .finish
    ({ w with clock := w.clock + startTime }, .start id child (k id))

/-! ## Section 2: Files -/

/-- The fault or the result of something that may fail, with the state after it. -/
def attempt {α : Type} (f : World → Except Fault (World × α)) : Work (Except Fault α) :=
  act fun w => match f w with
    | .ok (w, a) => (.ok a, w)
    | .error fault => (.error fault, w)

/-- Waits until the other end of a pipe with a name is open as well. -/
def meet (number : Nat) : Work Unit := fun k =>
  .step fun w =>
    match w.handle? number with
    | some (_, { target := .source p, .. }) =>
      (w, .await (·.leadsTo (.drain p)) none (k ()))
    | some (_, { target := .drain p, .. }) =>
      (w, .await (·.leadsTo (.source p)) none (k ()))
    | _ => (w, k ())

/-- Whether a path names a pipe. -/
def namesPipe (w : World) (path : String) : Bool :=
  match w.find path with
  | .ok id => (w.files.contentOf id matches .pipe _)
  | .error _ => false

/-- Opens the file of a path and returns its descriptor. -/
def openFile (path : String) (o : World.Opening) (mode : Nat := 0o666) :
    Work (Except Fault Nat) := do
  let waits ← look fun w => namesPipe w path && !(o.reads && o.writes)
  match ← attempt fun w => w.openFile path o mode with
  | .ok number =>
    if waits then meet number
    return .ok number
  | .error fault => return .error fault

/-- Closes a descriptor. -/
def close (number : Nat) : Work Unit := change (·.close number)

/-- Makes a pipe: the descriptor to read from and the one to write to. -/
def pipe : Work (Nat × Nat) := act fun w => let (w, ends) := w.makePipe; (ends, w)

/-- Whether there is something to read, or never will be. -/
def isReadable (h : Handle) (w : World) : Bool :=
  match h.target with
  | .source p => w.pipeSize p != 0 || !w.leadsTo (.drain p)
  | _ => true

/-- Whether there are signals that the process of a number has to handle. -/
def isCalled (id : Nat) (w : World) : Bool :=
  match w.process? id with
  | some p => !p.pending.isEmpty
  | none => false

/-- Reads at most some number of bytes from a descriptor; there are none at the end.
    A signal that is handled cuts the waiting short. -/
def read (number count : Nat) : Work (Except Fault ByteArray) := fun k =>
  let take : Behavior := .step fun w =>
    match w.handle? number with
    | none => (w, k (.error .badDescriptor))
    | some (id, h) =>
      if !h.reads && !(h.target matches .stream _) then (w, k (.error .badDescriptor))
      else if !isReadable h w then (w, k (.error .interrupted))
      else match w.bytesAt h count with
        | .ok bytes => (w.advance id h bytes.size, k (.ok bytes))
        | .error fault => (w, k (.error fault))
  .step fun w =>
    match w.handle? number with
    | some (_, h) =>
      if isReadable h w then (w, take)
      else
        let self := w.current
        (w, .await (fun w => isReadable h w || isCalled self w) none take)
    | none => (w, k (.error .badDescriptor))

/-- Writes bytes to a descriptor. A pipe that is full is waited for; one that nobody
    reads is a fault, if the signal about it does not end the process. The first
    number bounds the pieces that are written one after the other. -/
def writePieces (number : Nat) : Nat → ByteArray → Work (Except Fault Unit)
  | 0, _ => pure (.ok ())
  | fuel + 1, bytes => fun k =>
    let give : Behavior := .step fun w =>
      match w.handle? number with
      | none => (w, k (.error .badDescriptor))
      | some (id, h) =>
        if !h.writes then (w, k (.error .badDescriptor))
        else match h.target with
          | .drain p =>
            if !w.leadsTo (.source p) then
              match Signal.ofNumber? 13 with
              | some s => (w.signal w.current s, .step fun w => (w, k (.error .brokenPipe)))
              | none => (w, k (.error .brokenPipe))
            else
              let room := World.pipeLimit - w.pipeSize p
              if bytes.size ≤ room then
                match w.put id h bytes with
                | .ok w => (w, k (.ok ()))
                | .error fault => (w, k (.error fault))
              else
                match w.put id h (bytes.extract 0 room) with
                | .ok w => (w, writePieces number fuel (bytes.extract room bytes.size) k)
                | .error fault => (w, k (.error fault))
          | _ =>
            match w.put id h bytes with
            | .ok w => (w, k (.ok ()))
            | .error fault => (w, k (.error fault))
    .step fun w =>
      match w.handle? number with
      | some (_, { target := .drain p, .. }) =>
        let isReady (w : World) : Bool :=
          !w.leadsTo (.source p) ||
            if bytes.size ≤ 4096 then bytes.size + w.pipeSize p ≤ World.pipeLimit
            else w.pipeSize p < World.pipeLimit
        if isReady w then (w, give) else (w, .await isReady none give)
      | _ => (w, give)

/-- Writes bytes to a descriptor. -/
def write (number : Nat) (bytes : ByteArray) : Work (Except Fault Unit) :=
  if bytes.isEmpty then pure (.ok ()) else writePieces number (bytes.size + 1) bytes

/-- Writes a text to a descriptor. -/
def writeText (number : Nat) (s : String) : Work (Except Fault Unit) :=
  write number (Octets.toBytes s)

/-- Reads what is left behind a descriptor. The number bounds the pieces in which it is
    read. -/
def readPieces (number : Nat) : Nat → ByteArray → Work (Except Fault ByteArray)
  | 0, got => pure (.ok got)
  | fuel + 1, got => do
    match ← read number 65536 with
    | .error .interrupted => readPieces number fuel got
    | .error fault => return .error fault
    | .ok bytes => if bytes.isEmpty then return .ok got else readPieces number fuel (got ++ bytes)

/-- Reads what is left behind a descriptor. -/
def readAll (number : Nat) : Work (Except Fault ByteArray) := readPieces number 1000000 .empty

/-! ## Section 3: Processes -/

/-- The number of the process. -/
def self : Work Nat := look (·.current)

/-- Sends a signal to a process, if there is such a process. -/
def signal (id : Nat) (s : Signal) : Work Unit := fun k =>
  .step fun w => (w.signal id s, .step fun w => (w, k ()))

/-- The present moment, in microseconds. -/
def moment : Work Nat := look (·.clock)

/-- Waits for some microseconds. -/
def sleep (time : Nat) : Work Unit := fun k =>
  .step fun w =>
    let until_ := w.clock + time
    (w, .await (fun _ => false) (some until_) (k ()))

/-- The first child of a process that fulfils a condition and has ended. -/
def endedChild? (w : World) (parent : Nat) (wanted : Nat → Bool) : Option (Nat × Exit) :=
  w.processes.findSome? fun p =>
    match p.phase with
    | .ended exit => if p.parent == parent && wanted p.id then some (p.id, exit) else none
    | _ => none

/-- Waits for the end of a child that was started here. -/
def waitFor (child : Nat) : Work Exit := fun k =>
  .step fun w =>
    let self := w.current
    (w, .await (fun w => (endedChild? w self (· == child)).isSome || (w.process? child).isNone) none
      (.step fun w => match endedChild? w self (· == child) with
        | some (id, exit) => (w.forget id, k exit)
        | none => (w, k (.status 0))))

/-- What becomes of a process that runs another program: signals that it handled have
    their usual effect again, and private descriptors are closed. -/
def becomeProgram : Work Unit :=
  change fun w =>
    { w.changeSelf fun p => { p with
        caught := []
        pending := []
        descriptors := p.descriptors.filter fun d => !d.isPrivate } with
      stirred := true
      clock := w.clock + runTime }

end Work

end SimSweep.Kernel
