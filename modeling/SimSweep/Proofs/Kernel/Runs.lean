import SimSweep.Kernel.Scheduler
import SimSweep.Proofs.Kernel.Descriptors

/-! # Runs of processes

    What holds of a state of the system holds after any run of processes, whatever turns they
    take, if each step of each of them keeps it (`runThreads_keeps`). That a behavior does so is
    shown along its steps, and for a piece of work along the pieces of which it is made.

    Main statement: everything that the kernel lets a process do keeps the system sound, and
    so do processes that are made of it (`runThreads_sound`).
-/

namespace SimSweep.Kernel

/-! ## Section 1: What steps keep -/

namespace Behavior

/-- Every step of a behavior keeps a property of the system, and so do the processes that it
    starts. Between two steps of it anything may happen that keeps the property. -/
inductive Keeps (P : World → Prop) : Behavior → Prop where
  | step {act : World → World × Behavior} : (∀ w, P w → P (act w).1) →
      (∀ w, P w → Keeps P (act w).2) → Keeps P (.step act)
  | await {ready : World → Bool} {moment : Option Nat} {rest : Behavior} :
      Keeps P rest → Keeps P (.await ready moment rest)
  | start {id : Nat} {body rest : Behavior} :
      Keeps P body → Keeps P rest → Keeps P (.start id body rest)
  | finish : Keeps P .finish

/-- A step with what follows it. -/
theorem Keeps.next {P : World → Prop} {act : World → World × Behavior}
    (h : ∀ w, P w → P (act w).1 ∧ (act w).2.Keeps P) : Keeps P (.step act) :=
  .step (fun w hw => (h w hw).1) fun w hw => (h w hw).2

/-- What a process does when it need not wait any longer. -/
def woken : Behavior → Behavior
  | .await _ _ rest => rest
  | p => p

theorem Keeps.woken {P : World → Prop} {p : Behavior} (h : p.Keeps P) : p.woken.Keeps P := by
  cases h with
  | await hrest => exact hrest
  | step hact hrest => exact .step hact hrest
  | start hbody hrest => exact .start hbody hrest
  | finish => exact .finish

end Behavior

/-- A property that does not depend on the process that is doing something, on the time, and
    on whether something has happened. -/
def Timeless (P : World → Prop) : Prop :=
  ∀ w current clock stirred, P w → P { w with current, clock, stirred }

/-! ## Section 2: Turns -/

section Runs

variable {P : World → Prop}

/-- What a process leaves when its turn is over. -/
structure Left (P : World → Prop) (w : World) (rest : Behavior)
    (started : Option (Nat × Behavior)) : Prop where
  world : P w
  rest : rest.Keeps P
  started : ∀ id body, started = some (id, body) → body.Keeps P

/-- One turn of a process, by induction on the number of its steps. -/
theorem goOn_keeps (htimeless : Timeless P) (fuel limit : Nat) {w : World} {p : Behavior}
    (h : P w) (hp : p.Keeps P) :
    let turn := goOn fuel limit w p
    Left P turn.1 turn.2.1 turn.2.2 := by
  induction fuel generalizing w p with
  | zero => exact ⟨h, hp, by simp [goOn]⟩
  | succ fuel ih =>
    cases hp with
    | step hact hrest =>
      rename_i act
      have hnext : P { (act w).1 with clock := (act w).1.clock + 1 } :=
        htimeless _ (act w).1.current _ (act w).1.stirred (hact w h)
      simp only [goOn]
      split
      · exact ⟨hnext, hrest w h, by simp⟩
      · exact ih hnext (hrest w h)
    | await hrest => exact ⟨h, .await hrest, by simp [goOn]⟩
    | start hbody hrest =>
      refine ⟨h, hrest, ?_⟩
      intro id body hstarted
      cases hstarted
      exact hbody
    | finish => exact ⟨h, .finish, by simp [goOn]⟩

/-- A look at what a thread waits for does not change what it is going to do. -/
theorem behavior_look (w : World) (t : Thread) : (t.look w).1.behavior = t.behavior := by
  unfold Thread.look
  split
  · split
    · split
      · split <;> rfl
      · rfl
    · rfl
  · rfl

/-- The better of a thread and the best one so far, with what is known of their moments. -/
def better (best : Option (Thread × Nat × Option Nat)) (t : Thread × Option Nat) :
    Option (Thread × Nat × Option Nat) :=
  match t.2, best with
  | none, best => best
  | some due, none => some (t.1, due, none)
  | some due, some (b, first, second) =>
    if due < first then some (t.1, due, some first)
    else some (b, first, some (min due (second.getD due)))

theorem furthestBehind_eq (threads : List (Thread × Option Nat)) :
    furthestBehind threads = threads.foldl better none := rfl

/-- The better one is one of the two. -/
theorem eq_or_eq_of_better {best : Option (Thread × Nat × Option Nat)} {t : Thread × Option Nat}
    {b : Thread} (h : (better best t).map Prod.fst = some b) :
    b = t.1 ∨ best.map Prod.fst = some b := by
  unfold better at h
  split at h
  · exact .inr h
  · exact .inl (Option.some.inj h).symm
  · split at h
    · exact .inl (Option.some.inj h).symm
    · exact .inr h

/-- The thread that goes on is one of the threads. -/
theorem mem_of_furthestBehind {threads : List (Thread × Option Nat)} {b : Thread}
    (h : (furthestBehind threads).map Prod.fst = some b) : b ∈ threads.map Prod.fst := by
  rw [furthestBehind_eq] at h
  have hfold : ∀ best, (threads.foldl better best).map Prod.fst = some b →
      b ∈ threads.map Prod.fst ∨ best.map Prod.fst = some b := by
    clear h
    induction threads with
    | nil => exact fun best hbest => .inr hbest
    | cons t rest ih =>
      intro best hbest
      rw [List.map_cons, List.mem_cons]
      rcases ih _ hbest with hmem | hbetter
      · exact .inl (.inr hmem)
      · exact (eq_or_eq_of_better hbetter).imp_left .inl
  exact (hfold none h).resolve_right (by simp)

/-- The thread of a process that was started. -/
def born (started : Option (Nat × Behavior)) (time : Nat) : List Thread :=
  match started with
  | some (id, body) => [{ id, behavior := body, time }]
  | none => []

theorem runThreads_succ (fuel : Nat) (w : World) (threads : List Thread) :
    runThreads (fuel + 1) w threads =
      let looked := (threads.filter fun t => w.isAlive t.id).map (Thread.look w)
      match furthestBehind looked with
      | none => w
      | some (t, due, next) =>
        let turn := goOn (2 * sliceLength) (min (next.getD (due + sliceLength)) (due + sliceLength))
          { w with current := t.id, clock := due, stirred := false } t.behavior.woken
        runThreads fuel turn.1 ((looked.map Prod.fst).filter (·.id != t.id) ++
          { t with behavior := turn.2.1, time := turn.1.clock, isWoken := false } ::
            born turn.2.2 turn.1.clock) := rfl

/-- A run of processes, by induction on the number of turns: what the process whose turn it is
    leaves has been kept, and so has what the others wait with. -/
theorem runThreads_keeps (htimeless : Timeless P) (fuel : Nat) {w : World}
    {threads : List Thread} (h : P w) (hthreads : ∀ t ∈ threads, t.behavior.Keeps P) :
    P (runThreads fuel w threads) := by
  induction fuel generalizing w threads with
  | zero => exact h
  | succ fuel ih =>
    rw [runThreads_succ]
    extract_lets looked
    have hlooked : ∀ t ∈ looked.map Prod.fst, t.behavior.Keeps P := by
      intro t ht
      simp only [looked, List.map_map, List.mem_map, Function.comp_apply] at ht
      obtain ⟨t₀, ht₀, rfl⟩ := ht
      rw [behavior_look]
      exact hthreads t₀ (List.mem_of_mem_filter ht₀)
    cases hnext : furthestBehind looked with
    | none => exact h
    | some best =>
      obtain ⟨t, due, next⟩ := best
      have ht : t.behavior.Keeps P := hlooked t (mem_of_furthestBehind (by rw [hnext]; rfl))
      have hleft := goOn_keeps htimeless (2 * sliceLength)
        (min (next.getD (due + sliceLength)) (due + sliceLength))
        (htimeless w t.id due false h) ht.woken
      refine ih hleft.world ?_
      intro other hother
      rcases List.mem_append.mp hother with hwaiting | hgone
      · exact hlooked other (List.mem_of_mem_filter hwaiting)
      · rcases List.mem_cons.mp hgone with rfl | hborn
        · exact hleft.rest
        · unfold born at hborn
          split at hborn
          · rename_i id body hstarted
            cases List.mem_singleton.mp hborn
            exact hleft.started id body hstarted
          · cases hborn

end Runs

/-! ## Section 3: Pieces of work -/

namespace Work

/-- What follows on a piece of work is kept if whatever it hands its result to is kept. -/
def Keeps {α : Type} (P : World → Prop) (x : Work α) : Prop :=
  ∀ k : α → Behavior, (∀ a, (k a).Keeps P) → (x k).Keeps P

namespace Keeps

variable {P : World → Prop} {α β : Type}

theorem pure (a : α) : Keeps P (Pure.pure a : Work α) := fun _ hk => hk a

theorem bind {x : Work α} {f : α → Work β} (hx : Keeps P x) (hf : ∀ a, Keeps P (f a)) :
    Keeps P (x >>= f) := fun k hk => hx _ fun a => hf a k hk

theorem act {f : World → α × World} (h : ∀ w, P w → P (f w).2) : Keeps P (Work.act f) :=
  fun _ hk => .step h fun w _ => hk (f w).1

theorem look (f : World → α) : Keeps P (Work.look f) :=
  fun _ hk => .step (fun _ h => h) fun w _ => hk (f w)

theorem change {f : World → World} (h : ∀ w, P w → P (f w)) : Keeps P (Work.change f) :=
  fun _ hk => .step h fun _ _ => hk ()

theorem await (ready : World → Bool) (moment : Option Nat) :
    Keeps P (Work.await ready moment) := fun _ hk => .await (hk ())

/-- Something that fails changes nothing. -/
theorem attempt {f : World → Except Fault (World × α)}
    (h : ∀ w w' a, P w → f w = .ok (w', a) → P w') : Keeps P (Work.attempt f) := by
  refine act fun w hw => ?_
  split
  · exact h w _ _ hw ‹_›
  · exact hw

end Keeps

end Work

/-! ## Section 4: What the kernel does -/

/-- Whether a system is sound does not depend on the time. -/
theorem timeless_sound : Timeless World.Sound := fun _ _ _ _ h => h.congr rfl rfl rfl

namespace Work

open World (Sound)

theorem finish_status {w : World} (h : w.Sound) (id code : Nat) :
    (w.finish id (.status (code % 256))).Sound := by
  have hfits : (Exit.status (code % 256)).Fits := Nat.le_of_lt_succ (Nat.mod_lt _ (by decide))
  exact h.finish id hfits

theorem keeps_exit {α : Type} (code : Nat) : Keeps Sound (Work.exit (α := α) code) :=
  fun _ _ => .step (fun w h => finish_status h w.current code) fun _ _ => .finish

theorem keeps_spend (time : Nat) : Keeps Sound (spend time) :=
  .change fun _ h => h.congr rfl rfl rfl

/-- A process is started, both go on, and the new one ends with its work. -/
theorem keeps_fork {body : Work Nat} (hbody : Keeps Sound body) :
    Keeps Sound (Work.fork body) := by
  intro k hk
  refine .next fun w h => ⟨h.spawn.congr rfl rfl rfl, .start ?_ (hk _)⟩
  refine keeps_spend startDelay _ fun _ => hbody _ fun code => ?_
  exact keeps_exit code _ fun _ => .finish

theorem keeps_meet (number : Nat) : Keeps Sound (meet number) := by
  intro k hk
  refine .next fun w h => ?_
  split
  · exact ⟨h, .await (hk ())⟩
  · exact ⟨h, .await (hk ())⟩
  · exact ⟨h, hk ()⟩

theorem keeps_openFile (path : String) (o : World.Opening) (mode : Nat) :
    Keeps Sound (openFile path o mode) := by
  refine .bind (.look _) fun waits => .bind ?_ fun opened => ?_
  · exact .attempt fun w w' number h hopened => h.openFile hopened
  · cases opened with
    | error fault => exact .pure _
    | ok number =>
      cases waits with
      | true => exact .bind (keeps_meet number) fun _ => .pure _
      | false => exact .pure _

theorem keeps_close (number : Nat) : Keeps Sound (close number) :=
  .change fun _ h => h.close number

theorem keeps_pipe : Keeps Sound pipe := .act fun _ h => h.makePipe

/-- Reading: what there is to read is taken, after it has been waited for. -/
theorem keeps_read (number count : Nat) : Keeps Sound (read number count) := by
  intro k hk
  unfold read
  extract_lets take
  have htake : take.Keeps Sound := by
    refine .next fun w h => ?_
    split
    · exact ⟨h, hk _⟩
    · split_ifs
      · exact ⟨h, hk _⟩
      · exact ⟨h, hk _⟩
      · split
        · exact ⟨h.advance _ _ _, hk _⟩
        · exact ⟨h, hk _⟩
  refine .next fun w h => ?_
  split
  · split
    · exact ⟨h, htake⟩
    · exact ⟨h, .await htake⟩
  · exact ⟨h, hk _⟩

/-- Writing, by induction on the number of pieces: a piece is given, after there is room for
    it, and a process that nobody reads may be ended by a signal. -/
theorem keeps_writePieces (number fuel : Nat) (bytes : ByteArray) :
    Keeps Sound (writePieces number fuel bytes) := by
  induction fuel generalizing bytes with
  | zero => exact .pure _
  | succ fuel ih =>
    intro k hk
    unfold writePieces
    extract_lets give
    have hgive : give.Keeps Sound := by
      refine .next fun w h => ?_
      split
      · exact ⟨h, hk _⟩
      · split
        · exact ⟨h, hk _⟩
        · split
          · split
            · split
              · refine ⟨h.signal _ (Signal.fits_of_ofNumber? ‹_›), .next fun w h => ⟨h, hk _⟩⟩
              · exact ⟨h, hk _⟩
            · dsimp only
              split
              -- the last piece, and one behind which there are others
              · split
                · exact ⟨h.put ‹_›, hk _⟩
                · exact ⟨h, hk _⟩
              · split
                · exact ⟨h.put ‹_›, ih _ k hk⟩
                · exact ⟨h, hk _⟩
          · split
            · exact ⟨h.put ‹_›, hk _⟩
            · exact ⟨h, hk _⟩
    refine .next fun w h => ?_
    split
    · extract_lets isReady
      split_ifs
      · exact ⟨h, hgive⟩
      · exact ⟨h, .await hgive⟩
    · exact ⟨h, hgive⟩

theorem keeps_write (number : Nat) (bytes : ByteArray) : Keeps Sound (write number bytes) := by
  unfold write
  split
  · exact .pure _
  · exact keeps_writePieces number _ bytes

theorem keeps_writeText (number : Nat) (s : String) : Keeps Sound (writeText number s) :=
  keeps_write number _

/-- Reading what is left, by induction on the number of pieces. -/
theorem keeps_readPieces (number fuel : Nat) (got : ByteArray) :
    Keeps Sound (readPieces number fuel got) := by
  induction fuel generalizing got with
  | zero => exact .pure _
  | succ fuel ih =>
    refine .bind (keeps_read number 65536) fun piece => ?_
    split
    · exact ih got
    · exact .pure _
    · split
      · exact .pure _
      · exact ih _

theorem keeps_readAll (number : Nat) : Keeps Sound (readAll number) :=
  keeps_readPieces number _ _

theorem keeps_signal (id : Nat) {s : Signal} (hs : (Exit.signal s.number).Fits) :
    Keeps Sound (signal id s) :=
  fun _ hk => .next fun _ h => ⟨h.signal id hs, .next fun _ h => ⟨h, hk ()⟩⟩

theorem keeps_sleep (time : Nat) : Keeps Sound (sleep time) :=
  fun _ hk => .next fun _ h => ⟨h, .await (hk ())⟩

/-- A child is forgotten when its parent has been told of its end. -/
theorem keeps_waitFor (child : Nat) : Keeps Sound (waitFor child) := by
  intro k hk
  refine .next fun w h => ⟨h, .await (.next fun w h => ?_)⟩
  split
  · exact ⟨h.forget _, hk _⟩
  · exact ⟨h, hk _⟩

/-- A process that runs another program closes its private descriptors. -/
theorem keeps_becomeProgram : Keeps Sound becomeProgram := by
  refine .change fun w h => World.Sound.congr (h.changeSelf (f := fun p => { p with
    caught := []
    pending := []
    descriptors := p.descriptors.filter fun d => !d.isPrivate }) (fun _ => rfl) ?_) rfl rfl rfl
  intro p hp
  exact (hp.filter fun d => !d.isPrivate).congr rfl rfl

end Work

/-- Processes that are made of what the kernel does leave the system sound. -/
theorem runThreads_sound {w : World} (h : w.Sound) {threads : List Thread}
    (hthreads : ∀ t ∈ threads, t.behavior.Keeps World.Sound) (turns : Nat) :
    (runThreads turns w threads).Sound :=
  runThreads_keeps timeless_sound turns h hthreads

end SimSweep.Kernel
