import SimSweep.Launch
import SimSweep.Proofs.Program.Across
import SimSweep.Proofs.Program.Output
import SimSweep.Proofs.Program.Prepared
import SimSweep.Proofs.Report.StatusWord
import SimSweep.Proofs.Tool.Plain

/-! # Commands in a simulated system

    A command is launched in a system that holds nothing but files, and leaves files behind.
    How it ended is what the status word of its process says (`endingOf_eq_ofStatusWord`), and
    one that did not start leaves everything as it was (`run_of_notStarted`).

    A run of the program with such a system is one of the runs of which everything else is
    shown. Main statement: each command finds the files that the one before it has left behind,
    and nothing else that the program does changes a file (`history_run`).
-/

namespace SimSweep.Launch

open Kernel Program

/-! ## Section 1: Endings -/

/-- The word by which a system reports how a process ended. -/
def statusWord : Exit → UInt32
  | .status code => UInt32.ofNat (code * 256)
  | .signal number => UInt32.ofNat number

theorem toNat_statusWord_status {code : Nat} (h : code ≤ 255) :
    (statusWord (.status code)).toNat = code * 256 :=
  UInt32.toNat_ofNat_of_lt' (show code * 256 < 4294967296 by omega)

theorem toNat_statusWord_signal {number : Nat} (h : number ≤ 126) :
    (statusWord (.signal number)).toNat = number :=
  UInt32.toNat_ofNat_of_lt' (show number < 4294967296 by omega)

/-- The word says that the process exited if it did, and which signal it was that killed it
    otherwise. -/
theorem exited_statusWord {code : Nat} (h : code ≤ 255) :
    Ending.Exited (statusWord (.status code)) code := by
  unfold Ending.Exited
  rw [toNat_statusWord_status h]
  omega

theorem killed_statusWord {number : Nat} (hpos : 1 ≤ number) (hle : number ≤ 126) :
    Ending.Killed (statusWord (.signal number)) number := by
  unfold Ending.Killed
  rw [toNat_statusWord_signal hle]
  omega

/-- The ending of a process is what its status word says. -/
theorem tells_endingOf {e : Exit} (h : e.Fits) : Ending.Tells (statusWord e) (endingOf e) := by
  cases e with
  | status code =>
    have hexited : Ending.Exited _ code := exited_statusWord h
    cases code with
    | zero => exact .success hexited
    | succ n => exact .failed hexited (by omega) h
  | signal number => exact .killed (killed_statusWord h.1 h.2) h.1 h.2

/-- No word but zero reports an exit with status zero, so the ending is also what the program
    makes of the word. -/
theorem endingOf_eq_ofStatusWord {e : Exit} (h : e.Fits) :
    endingOf e = Ending.ofStatusWord (statusWord e) := by
  refine ((tells_endingOf h).eq_ofStatusWord ?_).symm
  rintro ⟨hzero, hne⟩
  cases e with
  | status code =>
    have hcode : code = 0 := (exited_statusWord h).2.symm.trans hzero.2
    subst hcode
    exact hne rfl
  | signal number =>
    have hkilled := killed_statusWord h.1 h.2
    exact hkilled.2.1 (hkilled.1.symm.trans hzero.1)

theorem endingOf_ne_notStarted (e : Exit) (reason : String) :
    endingOf e ≠ .notStarted reason := by
  unfold endingOf
  split <;> simp

/-! ## Section 2: One launch -/

/-- The system in which a command is launched is sound. -/
theorem sound_startWorld (files : Files) : (startWorld files).Sound where
  ids := by
    show [launchingProcess, launchedProcess].Nodup
    decide
  old p hp := by
    have hlt : launchingProcess < launchedProcess + 1 := by decide
    simp only [startWorld, List.mem_cons, List.not_mem_nil, or_false] at hp
    rcases hp with rfl | rfl
    · exact hlt
    · exact Nat.lt_succ_self launchedProcess
  processes p hp := by
    simp only [startWorld, List.mem_cons, List.not_mem_nil, or_false] at hp
    rcases hp with rfl | rfl
    · exact ⟨by decide, by simp, by simp⟩
    · exact ⟨by decide, by simp [startWorld], by simp⟩

/-- The process that does some work and ends with its result as status. -/
def launchedThread (x : Work Nat) : Thread where
  id := launchedProcess
  behavior := x fun code => Work.exit (α := Unit) code fun _ => .finish
  time := 0

/-- Work that keeps the system sound ends in a way that its status word tells, if it ends. -/
theorem endingOf_launchedThread {x : Work Nat} (hx : x.Keeps World.Sound) {files : Files}
    {turns : Nat} {p : Process} {e : Exit}
    (hp : (runThreads turns (startWorld files) [launchedThread x]).process? launchedProcess =
      some p) (he : p.phase = .ended e) :
    endingOf e = Ending.ofStatusWord (statusWord e) := by
  have hthreads : ∀ t ∈ [launchedThread x], t.behavior.Keeps World.Sound := by
    intro t ht
    cases List.mem_singleton.mp ht
    exact hx _ fun code => Work.keeps_exit code _ fun _ => .finish
  have hsound := runThreads_sound (sound_startWorld files) hthreads turns
  exact endingOf_eq_ofStatusWord ((hsound.of_process? hp).exit e he)

/-- So do the plain programs, with any arguments and in any environment. -/
theorem endingOf_perform (host : Host) {name : String} (hname : name ∈ Tool.plainNames)
    (call : Call) {files : Files} {turns : Nat} {p : Process} {e : Exit}
    (hp : (runThreads turns (startWorld files)
      [launchedThread (Tool.perform host name call)]).process? launchedProcess = some p)
    (he : p.phase = .ended e) : endingOf e = Ending.ofStatusWord (statusWord e) :=
  endingOf_launchedThread (Tool.keeps_perform host hname call) hp he

/-- A program that does not start writes nothing and leaves the files as they were, and it is
    named with the reason. -/
theorem run_of_notStarted {files : Files} {environment : List (String × String)}
    {path command reason : String}
    (h : (run files environment path command).ending = .notStarted reason) :
    (run files environment path command).written = [] ∧
    (run files environment path command).files = files ∧
    ∃ why, reason = launchFault path why := by
  unfold run at h ⊢
  split at h
  · rename_i hnul
    rw [if_pos hnul]
    exact ⟨rfl, rfl, _, (Ending.notStarted.inj h).symm⟩
  · rename_i hnul
    rw [if_neg hnul]
    dsimp only at h ⊢
    split at h
    · exact ⟨rfl, rfl, _, (Ending.notStarted.inj h).symm⟩
    · -- a program that started has ended, or its status is taken for success
      dsimp only at h
      split at h
      · exact absurd h (endingOf_ne_notStarted _ _)
      · cases h

/-! ## Section 3: All launches of a run -/

section History

variable (environment : List (String × String))

/-- From some files to others, through what happens in a run: each command that is launched
    finds the files that are there, ends as it does with them, and leaves its own. -/
inductive History : Files → List Event → Files → Prop where
  | nil {files : Files} : History files [] files
  | launched {files last : Files} {events : List Event} (path : String) (stream : Stream)
      (command : String) :
      History (run files environment path command).files events last →
      History files (.launched path stream command (run files environment path command).ending ::
        events) last
  | listed {files last : Files} {events : List Event} (stream : Stream) (command : String) :
      History files events last → History files (.listed stream command :: events) last
  | wrote {files last : Files} {events : List Event} (stream : Stream) (text : List Char) :
      History files events last → History files (.wrote stream text :: events) last

variable {environment}

namespace History

variable {first second third : Files} {before after : List Event}

theorem append (h : History environment first before second)
    (h' : History environment second after third) :
    History environment first (before ++ after) third := by
  induction h with
  | nil => exact h'
  | launched path stream command _ ih => exact .launched path stream command (ih h')
  | listed stream command _ ih => exact .listed stream command (ih h')
  | wrote stream text _ ih => exact .wrote stream text (ih h')

/-- What happens determines the files at the end. -/
theorem eq (h : History environment first before second)
    (h' : History environment first before third) : second = third := by
  induction h with
  | nil =>
    cases h'
    rfl
  | launched _ _ _ _ ih =>
    cases h' with
    | launched _ _ _ h' => exact ih h'
  | listed _ _ _ ih =>
    cases h' with
    | listed _ _ h' => exact ih h'
  | wrote _ _ _ ih =>
    cases h' with
    | wrote _ _ h' => exact ih h'

/-- Only commands that are launched change files. -/
theorem eq_of_no_launch (h : History environment first before second)
    (hnone : ∀ path stream command ending, .launched path stream command ending ∉ before) :
    second = first := by
  induction h with
  | nil => rfl
  | launched path stream command _ _ => exact absurd List.mem_cons_self (hnone _ _ _ _)
  | listed _ _ _ ih =>
    exact ih fun path stream command ending hmem =>
      hnone path stream command ending (List.mem_cons_of_mem _ hmem)
  | wrote _ _ _ ih =>
    exact ih fun path stream command ending hmem =>
      hnone path stream command ending (List.mem_cons_of_mem _ hmem)

end History

/-- What the program knows nothing of, if its commands are launched in a simulated system.
    The clocks and the names of sessions come from elsewhere. -/
def outside {τ : Type} (environment : List (String × String)) (elsewhere : Outside τ) :
    Outside (Files × τ) where
  build := elsewhere.build
  child path _ command := fun (files, t) =>
    let outcome := run files environment path command
    (outcome.ending, outcome.files, t)
  now := fun (files, t) => let (time, t) := elsewhere.now.run t; (time, files, t)
  clock := fun (files, t) => let (moment, t) := elsewhere.clock.run t; (moment, files, t)
  newSession := fun (files, t) =>
    let (session, t) := elsewhere.newSession.run t; (session, files, t)
  isTerminal := elsewhere.isTerminal

variable {τ : Type} (elsewhere : Outside τ)

/-- Between two worlds of a run events have been added, and they lead from the files of the
    one to those of the other. -/
def Leads (environment : List (String × String)) (w w' : Program.World (Files × τ)) : Prop :=
  ∃ events, w'.events = w.events ++ events ∧
    History environment w.outside.1 events w'.outside.1

/-- Everything that the program can ask of the system has its place in the history. -/
theorem respects_leads : Respects (outside environment elsewhere) (Leads environment) where
  refl w := ⟨[], (List.append_nil _).symm, .nil⟩
  trans := by
    rintro w₁ w₂ w₃ ⟨before, hbefore, h⟩ ⟨after, hafter, h'⟩
    exact ⟨before ++ after, by rw [hafter, hbefore, List.append_assoc], h.append h'⟩
  launch path stream command w := ⟨_, rfl, .launched path stream command .nil⟩
  list stream command w := ⟨_, rfl, .listed stream command .nil⟩
  write stream text w := ⟨_, rfl, .wrote stream text .nil⟩
  now w := ⟨[], (List.append_nil _).symm, .nil⟩
  clock w := ⟨[], (List.append_nil _).symm, .nil⟩
  newSession w := ⟨[], (List.append_nil _).symm, .nil⟩

/-- In a run each command finds the files that the one before it has left behind, and ends as
    it does with them. Nothing else changes a file. -/
theorem history_run (words : List Word) (env : Environment) (files : Files) (t : τ) :
    let ended := ((Program.run (outside environment elsewhere).system words env).run
      { outside := (files, t) }).2
    History environment files ended.events ended.outside.1 := by
  intro ended
  obtain ⟨events, hevents, h⟩ :=
    (respects_leads elsewhere).run env words { outside := (files, t) }
  have hall : ended.events = events := hevents
  rw [hall]
  exact h

/-- A run that is refused, and a dry run, leave every file as it was. -/
theorem files_run_eq {words : List Word} {env : Environment}
    (h : ∀ s, Settings.prepare words env = .ok s → s.dryRun) (files : Files) (t : τ) :
    ((Program.run (outside environment elsewhere).system words env).run
      { outside := (files, t) }).2.outside.1 = files := by
  refine History.eq_of_no_launch (history_run elsewhere words env files t) ?_
  intro path stream command ending hmem
  cases hread : Usage.read words with
  | error reason =>
    have hprepare : Settings.prepare words env = .error (.stopped reason) :=
      Settings.prepare_of_read_error hread
    have hcalls := callsOf_run_of_prepare hprepare (outside environment elsewhere) (files, t)
    cases callsOf_eq_nil_iff.mp hcalls _ hmem
  | ok a =>
    have hprepare : Settings.prepare words env = (Settings.load a env).mapError .refused :=
      Settings.prepare_of_read_ok hread
    cases hload : Settings.load a env with
    | error f =>
      rw [hload] at hprepare
      have hcalls := callsOf_run_of_prepare hprepare (outside environment elsewhere) (files, t)
      cases callsOf_eq_nil_iff.mp hcalls _ hmem
    | ok s =>
      rw [hload] at hprepare
      have hcourse := course_run (outside environment elsewhere) hread hload (files, t)
      obtain ⟨⟨_, hlisted⟩, _⟩ :=
        hcourse.listed_of_call? (h s hprepare) _ hmem command ending rfl
      cases hlisted

end History

end SimSweep.Launch
