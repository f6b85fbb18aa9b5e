import SimSweep.Program

/-! # Worlds and events

    The program runs in a world of which it knows nothing: children, clocks and names
    of sessions come from a machine with a state. What the program itself does is
    noted, one event for each text that it writes and each command that its runner
    deals with. What a child writes is its own affair and no event.

    A part of the program is described by what it adds to the events of any world
    (`Emits`), and such descriptions are put together like the parts.
-/

namespace SimSweep.Program

/-! ## Section 1: Worlds -/

/-- What the program does that can be seen from outside. -/
inductive Event where
  /-- A command was handed to the shell of a path, its standard output went to a stream,
      and it ended. -/
  | launched (path : String) (stream : Stream) (command : String) (ending : Ending)
  /-- A command was listed on a stream. -/
  | listed (stream : Stream) (command : String)
  /-- A text was written to a stream. -/
  | wrote (stream : Stream) (text : List Char)
  deriving DecidableEq

namespace Event

/-- The command that a runner was handed, with what it answered. -/
def call? : Event → Option (String × Ending)
  | .launched _ _ command ending => some (command, ending)
  | .listed _ command => some (command, .success)
  | .wrote _ _ => none

/-- The stream on which something may appear. -/
def stream : Event → Stream
  | .launched _ stream _ _ => stream
  | .listed stream _ => stream
  | .wrote stream _ => stream

/-- What the program itself puts on a stream. -/
def textOn (stream : Stream) : Event → List Char
  | .launched _ _ _ _ => []
  | .listed stream' command => if stream' = stream then command.toList ++ ['\n'] else []
  | .wrote stream' text => if stream' = stream then text else []

end Event

/-- The calls of a runner among some events. -/
def callsOf (events : List Event) : List (String × Ending) := events.filterMap Event.call?

@[simp] theorem callsOf_append (before after : List Event) :
    callsOf (before ++ after) = callsOf before ++ callsOf after := List.filterMap_append

/-- There are no calls exactly if no event is one. -/
theorem callsOf_eq_nil_iff {events : List Event} :
    callsOf events = [] ↔ ∀ e ∈ events, e.call? = none := List.filterMap_eq_nil_iff

/-- What some events put on a stream. -/
def printedOn (stream : Stream) (events : List Event) : List Char :=
  events.flatMap (Event.textOn stream)

/-- What the program cannot know: a machine that runs children, tells the time and
    names sessions. What it answers may depend on everything that it was asked before. -/
structure Outside (σ : Type) where
  build : Build := {}
  child : String → Stream → String → StateM σ Ending
  now : StateM σ Timestamp
  clock : StateM σ Nat
  newSession : StateM σ String
  isTerminal : Bool

/-- A run in progress. -/
structure World (σ : Type) where
  outside : σ
  /-- What the program has done, oldest first. -/
  events : List Event := []

namespace World

variable {σ : Type}

/-- Asks the outside for something. -/
def ask {α : Type} (x : StateM σ α) : StateM (World σ) α := fun w =>
  let result := x.run w.outside
  (result.1, { w with outside := result.2 })

/-- A run goes on where it is left off. -/
theorem run_bind {α β : Type} (x : StateM (World σ) α) (f : α → StateM (World σ) β)
    (w : World σ) : (x >>= f).run w = (f (x.run w).1).run (x.run w).2 := rfl

/-- Takes note of an event. -/
def note (event : Event) : StateM (World σ) Unit := fun w =>
  ((), { w with events := w.events ++ [event] })

end World

/-- The system that the program meets in a world. -/
def Outside.system {σ : Type} (o : Outside σ) : System (StateM (World σ)) where
  launch path stream command := do
    let ending ← World.ask (o.child path stream command)
    World.note (.launched path stream command ending)
    return ending
  write stream text := World.note (.wrote stream text)
  list stream command := World.note (.listed stream command)
  build := o.build
  now := World.ask o.now
  clock := World.ask o.clock
  newSession := World.ask o.newSession
  isTerminal := o.isTerminal

/-! ## Section 2: What a part of a run adds -/

/-- In every world a part of a run only adds events, and those that it adds are related
    to its result by `Q`. -/
def Emits {σ α : Type} (x : StateM (World σ) α) (Q : α → List Event → Prop) : Prop :=
  ∀ w, ∃ events, (x.run w).2.events = w.events ++ events ∧ Q (x.run w).1 events

namespace Emits

variable {σ α β : Type}

theorem pure {a : α} {Q : α → List Event → Prop} (h : Q a []) :
    Emits (Pure.pure a : StateM (World σ) α) Q := by
  intro w
  exact ⟨[], (List.append_nil w.events).symm, h⟩

/-- Parts that follow one another add their events one after the other. -/
theorem bind {x : StateM (World σ) α} {f : α → StateM (World σ) β} {P : α → List Event → Prop}
    {Q : β → List Event → Prop} (hx : Emits x P)
    (hf : ∀ a before, P a before → Emits (f a) fun b after => Q b (before ++ after)) :
    Emits (x >>= f) Q := by
  intro w
  obtain ⟨before, hbefore, hp⟩ := hx w
  obtain ⟨after, hafter, hq⟩ := hf (x.run w).1 before hp (x.run w).2
  refine ⟨before ++ after, ?_, hq⟩
  rw [← List.append_assoc, ← hbefore]
  exact hafter

theorem mono {x : StateM (World σ) α} {P Q : α → List Event → Prop} (h : Emits x P)
    (hpq : ∀ a events, P a events → Q a events) : Emits x Q := by
  intro w
  obtain ⟨events, hevents, hp⟩ := h w
  exact ⟨events, hevents, hpq _ _ hp⟩

/-- What is asked of the outside adds nothing. -/
theorem ask (x : StateM σ α) : Emits (World.ask x) fun _ events => events = [] := by
  intro w
  exact ⟨[], (List.append_nil w.events).symm, rfl⟩

theorem note (event : Event) :
    Emits (World.note event : StateM (World σ) Unit) fun _ events => events = [event] := by
  intro w
  exact ⟨[event], rfl, rfl⟩

end Emits

/-- Some events are nothing but texts on the standard error stream. -/
def Remarks (events : List Event) : Prop := ∀ e ∈ events, ∃ text, e = .wrote .error text

namespace Remarks

theorem nil : Remarks [] := by simp [Remarks]

theorem single (text : List Char) : Remarks [.wrote .error text] := by simp [Remarks]

theorem append {before after : List Event} (hb : Remarks before) (ha : Remarks after) :
    Remarks (before ++ after) := by
  intro e he
  rcases List.mem_append.mp he with h | h
  · exact hb e h
  · exact ha e h

/-- Remarks hold no call of a runner. -/
theorem callsOf_eq_nil {events : List Event} (h : Remarks events) : callsOf events = [] := by
  rw [callsOf_eq_nil_iff]
  intro e he
  obtain ⟨text, rfl⟩ := h e he
  rfl

/-- Remarks leave the standard output alone. -/
theorem printedOn_output {events : List Event} (h : Remarks events) :
    printedOn .output events = [] := by
  unfold printedOn
  rw [List.flatMap_eq_nil_iff]
  intro e he
  obtain ⟨text, rfl⟩ := h e he
  rfl

end Remarks

end SimSweep.Program
