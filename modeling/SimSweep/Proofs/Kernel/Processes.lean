import Mathlib.Data.List.Nodup
import SimSweep.Kernel.Work

/-! # Processes

    A state of the system is sound if its processes have distinct numbers, which are less than
    the next one that is given away, if the descriptors of a process have distinct numbers and
    lead to files that are open, and if every process that has ended did so in a way of which
    its parent can be told (`World.Sound`).

    A system stays sound when a process is started, ends, or is forgotten, and whatever signal
    is sent to one.
-/

namespace SimSweep.Kernel

/-! ## Section 1: Sound systems -/

/-- A parent can be told of an end: a status is a byte, and the number of a signal has seven
    bits, of which not all are set. -/
def Exit.Fits : Exit → Prop
  | .status code => code ≤ 255
  | .signal number => 1 ≤ number ∧ number ≤ 126

/-- A process is sound where so many files have been opened. -/
structure Process.Sound (p : Process) (handles : Nat) : Prop where
  numbers : (p.descriptors.map (·.number)).Nodup
  leads : ∀ d ∈ p.descriptors, d.handle < handles
  exit : ∀ e, p.phase = .ended e → e.Fits

namespace Process.Sound

variable {p : Process} {n : Nat}

/-- Files stay open files. -/
theorem mono {m : Nat} (h : p.Sound n) (hle : n ≤ m) : p.Sound m :=
  ⟨h.numbers, fun d hd => Nat.lt_of_lt_of_le (h.leads d hd) hle, h.exit⟩

/-- What matters of a process are its descriptors and what it is doing. -/
theorem congr {q : Process} (h : p.Sound n) (hdescriptors : q.descriptors = p.descriptors)
    (hphase : q.phase = p.phase) : q.Sound n where
  numbers := hdescriptors ▸ h.numbers
  leads := hdescriptors ▸ h.leads
  exit := hphase ▸ h.exit

/-- Descriptors may be closed. -/
theorem filter (h : p.Sound n) (keeps : Descriptor → Bool) :
    Process.Sound { p with descriptors := p.descriptors.filter keeps } n where
  numbers := h.numbers.sublist (List.filter_sublist.map _)
  leads d hd := h.leads d (List.mem_of_mem_filter hd)
  exit := h.exit

/-- A descriptor may be led to an open file. -/
theorem lead (h : p.Sound n) (number : Nat) {handle : Nat} (hlt : handle < n) (isPrivate : Bool) :
    Process.Sound { p with descriptors :=
      ⟨number, handle, isPrivate⟩ :: p.descriptors.filter (·.number != number) } n where
  numbers := by
    rw [List.map_cons, List.nodup_cons]
    refine ⟨?_, (h.filter _).numbers⟩
    simp
  leads d hd := by
    rcases List.mem_cons.mp hd with rfl | hd
    · exact hlt
    · exact h.leads d (List.mem_of_mem_filter hd)
  exit := h.exit

/-- A process that has just ended has no descriptors left. -/
theorem ended {e : Exit} (he : e.Fits) (hdescriptors : p.descriptors = [])
    (hphase : p.phase = .ended e) : p.Sound n where
  numbers := by simp [hdescriptors]
  leads := by simp [hdescriptors]
  exit e' he' := by
    cases hphase.symm.trans he'
    exact he

/-- Unless it has ended, a process may be doing anything. -/
theorem phase (h : p.Sound n) {q : Process} (hdescriptors : q.descriptors = p.descriptors)
    (hphase : ∀ e, q.phase ≠ .ended e) : q.Sound n where
  numbers := hdescriptors ▸ h.numbers
  leads := hdescriptors ▸ h.leads
  exit e he := absurd he (hphase e)

end Process.Sound

namespace Process

/-- What becomes of a process when one with a number ends; none if it is forgotten. -/
def afterEnd (p : Process) (id : Nat) (exit : Exit) : Option Process :=
  if p.id == id then some { p with phase := .ended exit, descriptors := [], pending := [] }
  else if p.parent == id then
    match p.phase with
    | .ended _ => none
    | _ => some { p with parent := 1 }
  else some p

variable {p q : Process} {id : Nat} {exit : Exit}

theorem id_afterEnd (h : p.afterEnd id exit = some q) : q.id = p.id := by
  unfold afterEnd at h
  split at h
  · cases h
    rfl
  · split at h
    · split at h
      · cases h
      · cases h
        rfl
    · cases h
      rfl

theorem Sound.afterEnd {n : Nat} (hp : p.Sound n) (hexit : exit.Fits)
    (h : p.afterEnd id exit = some q) : q.Sound n := by
  unfold Process.afterEnd at h
  split at h
  · cases h
    exact .ended hexit rfl rfl
  · split at h
    · split at h
      · cases h
      · cases h
        exact hp.congr rfl rfl
    · cases h
      exact hp

end Process

namespace World

theorem finish_eq (w : World) (id : Nat) (exit : Exit) :
    w.finish id exit = match w.process? id with
      | none => w
      | some process =>
        let orphaned := w.processes.filterMap (·.afterEnd id exit)
        let kept :=
          if w.isAlive process.parent || process.parent == 0 then orphaned
          else orphaned.filter (·.id != id)
        tellParent { w with processes := kept, stirred := true } process.parent := rfl

/-- The processes are told apart by their numbers and all of them are sound. -/
structure Sound (w : World) : Prop where
  ids : (w.processes.map (·.id)).Nodup
  old : ∀ p ∈ w.processes, p.id < w.nextProcess
  processes : ∀ p ∈ w.processes, p.Sound w.handles.size

namespace Sound

variable {w : World}

/-- What matters of a system are its processes and how many files have been opened. -/
theorem congr {w' : World} (h : w.Sound) (hprocesses : w'.processes = w.processes)
    (hnext : w'.nextProcess = w.nextProcess) (hhandles : w'.handles.size = w.handles.size) :
    w'.Sound where
  ids := hprocesses ▸ h.ids
  old := hprocesses ▸ hnext ▸ h.old
  processes := hprocesses ▸ hhandles ▸ h.processes

/-- Processes may be changed or forgotten as long as each that is left is sound and as no
    number is new. -/
theorem of_sublist (h : w.Sound) {processes : List Process}
    (hids : (processes.map (·.id)).Sublist (w.processes.map (·.id)))
    (hsound : ∀ p ∈ processes, p.Sound w.handles.size) :
    Sound { w with processes } where
  ids := h.ids.sublist hids
  old p hp := by
    obtain ⟨q, hq, hid⟩ := List.mem_map.mp (hids.subset (List.mem_map_of_mem hp))
    exact hid ▸ h.old q hq
  processes := hsound

theorem changeProcess (h : w.Sound) (id : Nat) {f : Process → Process}
    (hid : ∀ p, (f p).id = p.id)
    (hf : ∀ p ∈ w.processes, p.Sound w.handles.size → (f p).Sound w.handles.size) :
    (w.changeProcess id f).Sound := by
  refine h.of_sublist ?_ ?_
  · have hids : (fun p => (if p.id == id then f p else p).id) = (·.id) := by
      funext p
      split
      · exact hid p
      · rfl
    rw [List.map_map, Function.comp_def, hids]
  · intro p hp
    obtain ⟨q, hq, rfl⟩ := List.mem_map.mp hp
    split
    · exact hf q hq (h.processes q hq)
    · exact h.processes q hq

/-- More files may be open. -/
theorem grow (h : w.Sound) {handles : Array Handle} (hle : w.handles.size ≤ handles.size) :
    Sound { w with handles } :=
  ⟨h.ids, h.old, fun p hp => (h.processes p hp).mono hle⟩

/-- A process that is there is sound. -/
theorem of_process? (h : w.Sound) {id : Nat} {p : Process} (hp : w.process? id = some p) :
    p.Sound w.handles.size :=
  h.processes p (List.mem_of_find?_eq_some hp)

/-- The process that is doing something is sound, and so is nobody. -/
theorem self (h : w.Sound) : w.self.Sound w.handles.size := by
  unfold World.self
  cases hself : w.process? w.current with
  | some p => exact h.of_process? hself
  | none => exact ⟨List.nodup_nil, by simp [nobody], by simp [nobody]⟩

/-! ## Section 2: Processes come and go -/

theorem tellParent (h : w.Sound) (parent : Nat) : (w.tellParent parent).Sound := by
  refine h.changeProcess parent ?_ ?_
  · intro p
    split <;> rfl
  · intro p _ hp
    split
    · exact hp.congr rfl rfl
    · exact hp

theorem forget (h : w.Sound) (id : Nat) : (w.forget id).Sound :=
  h.of_sublist (List.filter_sublist.map _) fun p hp => h.processes p (List.mem_of_mem_filter hp)

/-- Each process becomes what it becomes when a process ends. -/
theorem filterMap_afterEnd (h : w.Sound) (id : Nat) {exit : Exit} (hexit : exit.Fits) :
    Sound { w with processes := w.processes.filterMap (·.afterEnd id exit) } := by
  refine h.of_sublist ?_ ?_
  · induction w.processes with
    | nil => exact List.Sublist.refl _
    | cons p ps ih =>
      rw [List.filterMap_cons]
      cases hp : p.afterEnd id exit with
      | none => exact ih.cons _
      | some q =>
        rw [List.map_cons, List.map_cons, Process.id_afterEnd hp]
        exact ih.cons_cons p.id
  · intro q hq
    obtain ⟨p, hp, hpq⟩ := List.mem_filterMap.mp hq
    exact (h.processes p hp).afterEnd hexit hpq

/-- A process ends and its children are on their own. -/
theorem finish (h : w.Sound) (id : Nat) {exit : Exit} (hexit : exit.Fits) :
    (w.finish id exit).Sound := by
  have horphaned := h.filterMap_afterEnd id hexit
  rw [finish_eq]
  split
  · exact h
  · refine tellParent (w := { w with processes := _, stirred := true }) ?_ _
    split
    · exact horphaned.congr rfl rfl rfl
    · exact (horphaned.forget id).congr rfl rfl rfl

/-- A new process gets the number that is given away next, which no process has. -/
theorem spawn (h : w.Sound) : w.spawn.1.Sound where
  ids := by
    unfold World.spawn
    rw [List.map_append, List.nodup_append]
    refine ⟨h.ids, List.nodup_singleton _, ?_⟩
    intro a ha b hb
    obtain ⟨p, hp, rfl⟩ := List.mem_map.mp ha
    rw [List.map_singleton, List.mem_singleton] at hb
    exact hb ▸ Nat.ne_of_lt (h.old p hp)
  old p hp := by
    unfold World.spawn at hp ⊢
    rcases List.mem_append.mp hp with hp | hp
    · exact Nat.lt_succ_of_lt (h.old p hp)
    · cases List.mem_singleton.mp hp
      exact Nat.lt_succ_self _
  processes p hp := by
    unfold World.spawn at hp ⊢
    rcases List.mem_append.mp hp with hp | hp
    · exact h.processes p hp
    · cases List.mem_singleton.mp hp
      exact h.self.congr rfl rfl

end Sound

/-! ## Section 3: Signals -/

/-- A process that was stopped goes on. -/
def resumed (w : World) (id : Nat) : World :=
  { w.changeProcess id fun p =>
      if p.phase matches .stopped _ then { p with phase := .running } else p with
    stirred := true }

/-- A process stops, and its parent is told. -/
def stopped (w : World) (id number parent : Nat) : World :=
  tellParent { w.changeProcess id fun p =>
      { p with phase := .stopped number, stopIsNews := true } with stirred := true } parent

/-- A signal waits until a process looks at it. -/
def pended (w : World) (id number : Nat) : World :=
  { w.changeProcess id fun p =>
      if p.pending.contains number then p else { p with pending := p.pending ++ [number] } with
    stirred := true }

theorem signal_eq (w : World) (id : Nat) (s : Signal) :
    w.signal id s = match w.process? id with
      | none => w
      | some p =>
        let w := if s.number = 18 then w.resumed id else w
        if p.phase matches .ended _ then w
        else if s.number = 9 then w.finish id (.signal 9)
        else if s.number = 19 then w.stopped id 19 p.parent
        else if p.ignored.contains s.number then w
        else if p.caught.contains s.number then w.pended id s.number
        else match s.effect with
          | .ends => w.finish id (.signal s.number)
          | .stops => w.stopped id s.number p.parent
          | .resumes | .none => w := rfl

namespace Sound

variable {w : World}

theorem resumed (h : w.Sound) (id : Nat) : (w.resumed id).Sound := by
  refine congr (h.changeProcess id ?_ ?_) rfl rfl rfl
  · intro p
    split <;> rfl
  · intro p _ hp
    split
    · exact hp.phase rfl (by simp)
    · exact hp

theorem stopped (h : w.Sound) (id number parent : Nat) : (w.stopped id number parent).Sound := by
  refine tellParent ?_ parent
  refine congr (h.changeProcess id ?_ ?_) rfl rfl rfl
  · intro p
    rfl
  · intro p _ hp
    exact hp.phase rfl (by simp)

theorem pended (h : w.Sound) (id number : Nat) : (w.pended id number).Sound := by
  refine congr (h.changeProcess id ?_ ?_) rfl rfl rfl
  · intro p
    split <;> rfl
  · intro p _ hp
    split
    · exact hp
    · exact hp.congr rfl rfl

/-- A signal ends or stops a process or lets it go on, or it waits, or nothing comes of it. -/
theorem signal (h : w.Sound) (id : Nat) {s : Signal} (hs : (Exit.signal s.number).Fits) :
    (w.signal id s).Sound := by
  rw [signal_eq]
  cases w.process? id with
  | none => exact h
  | some p =>
    have hresumed : Sound (if s.number = 18 then w.resumed id else w) := by
      split
      · exact h.resumed id
      · exact h
    generalize (if s.number = 18 then w.resumed id else w) = w' at hresumed
    have hkilled : (Exit.signal 9).Fits := by simp [Exit.Fits]
    dsimp only
    split_ifs
    · exact hresumed
    · exact hresumed.finish id hkilled
    · exact hresumed.stopped id 19 p.parent
    · exact hresumed
    · exact hresumed.pended id s.number
    · cases s.effect with
      | ends => exact hresumed.finish id hs
      | stops => exact hresumed.stopped id s.number p.parent
      | resumes => exact hresumed
      | none => exact hresumed

end Sound

end World

namespace Signal

theorem fits_of_mem_all {s : Signal} (h : s ∈ all) : (Exit.signal s.number).Fits := by
  have hall : ∀ s ∈ all, 1 ≤ s.number ∧ s.number ≤ 126 := by decide
  exact hall s h

theorem fits_realTime {n : Nat} (hlo : 34 ≤ n) (hhi : n ≤ 64) :
    (Exit.signal (realTime n).number).Fits := by
  show 1 ≤ n ∧ n ≤ 126
  omega

/-- A process that is ended by a signal with a number can be told of. -/
theorem fits_of_ofNumber? {n : Nat} {s : Signal} (h : ofNumber? n = some s) :
    (Exit.signal s.number).Fits := by
  unfold ofNumber? at h
  split at h
  · rename_i hn
    cases h
    exact fits_realTime hn.1 hn.2
  · exact fits_of_mem_all (List.mem_of_find?_eq_some h)

/-- So can one that is ended by a signal with a name. -/
theorem fits_of_ofText? {text : String} {s : Signal} (h : ofText? text = some s) :
    (Exit.signal s.number).Fits := by
  unfold ofText? at h
  dsimp only at h
  split at h
  · exact fits_of_ofNumber? h
  · rcases List.mem_append.mp (List.mem_of_find?_eq_some h) with hmem | hmem
    · exact fits_of_mem_all hmem
    · obtain ⟨n, hn, rfl⟩ := List.mem_map.mp hmem
      rw [List.mem_range] at hn
      exact fits_realTime (by omega) (by omega)

end Signal

end SimSweep.Kernel
