import SimSweep.Kernel.Work

/-! # Running processes

    Every process has a clock of its own, and the process whose clock is furthest
    behind goes on, as if there were a processor for each. A process that waits goes
    on a little after what it waits for has happened.
-/

namespace SimSweep.Kernel

/-- A process with what it is going to do. -/
structure Thread where
  id : Nat
  behavior : Behavior
  /-- Its clock. -/
  time : Nat
  /-- Whether it was noticed that it need not wait any longer. -/
  isWoken : Bool := false

namespace Thread

/-- The time until a process notices that it need not wait any longer. -/
def wakeTime : Nat := 20

/-- The thread after a look at what it waits for, and the moment at which it can go
    on, if there is one. -/
def look (w : World) (t : Thread) : Thread × Option Nat :=
  match w.process? t.id with
  | some { phase := .running, .. } =>
    match t.behavior with
    | .await ready moment _ =>
      if ready { w with current := t.id } then
        if t.isWoken then (t, some t.time)
        else
          let time := max t.time (w.clock + wakeTime)
          ({ t with time, isWoken := true }, some time)
      else ({ t with isWoken := false }, moment.map (max t.time))
    | _ => (t, some t.time)
  | _ => (t, none)

end Thread

/-- How long a process goes on by itself. -/
def sliceLength : Nat := 2000

/-- Goes on with a behavior until something has happened that others may have waited
    for, or until some moment. The result has the process that was started, if one
    was. -/
def goOn : Nat → Nat → World → Behavior → World × Behavior × Option (Nat × Behavior)
  | 0, _, w, p => (w, p, none)
  | fuel + 1, limit, w, p =>
    match p with
    | .step act =>
      let (w, p) := act w
      let w := { w with clock := w.clock + 1 }
      if w.stirred || limit < w.clock then (w, p, none) else goOn fuel limit w p
    | .await _ _ _ => (w, p, none)
    | .start id body rest => (w, rest, some (id, body))
    | .finish => (w, p, none)

/-- The thread that is furthest behind, with the moment at which it can go on, and the
    moment at which the next one can. -/
def furthestBehind (threads : List (Thread × Option Nat)) : Option (Thread × Nat × Option Nat) :=
  threads.foldl (fun best (t, due) =>
    match due, best with
    | none, best => best
    | some due, none => some (t, due, none)
    | some due, some (b, first, second) =>
      if due < first then some (t, due, some first)
      else some (b, first, some (min due (second.getD due)))) none

/-- Runs processes until none can go on. The first number bounds the turns. -/
def runThreads : Nat → World → List Thread → World
  | 0, w, _ => w
  | fuel + 1, w, threads =>
    let looked := (threads.filter fun t => w.isAlive t.id).map (Thread.look w)
    match furthestBehind looked with
    | none => w
    | some (t, due, next) =>
      let others := (looked.map Prod.fst).filter (·.id != t.id)
      let start := match t.behavior with
        | .await _ _ rest => rest
        | p => p
      let limit := min (next.getD (due + sliceLength)) (due + sliceLength)
      let (w, p, started) := goOn (2 * sliceLength) limit
        { w with current := t.id, clock := due, stirred := false } start
      let t := { t with behavior := p, time := w.clock, isWoken := false }
      let born := match started with
        | some (id, body) => [{ id, behavior := body, time := w.clock }]
        | none => []
      runThreads fuel w (others ++ t :: born)

/-- How many turns a launched process and its children have. -/
def turns : Nat := 20000000

end SimSweep.Kernel
