import SimSweep.Proofs.Kernel.Runs
import SimSweep.Tool.Table

/-! # Plain tools keep the system sound

    What small programs do is made of what the kernel does, so it leaves the system sound
    whatever their arguments are and whatever other processes do in between.
-/

namespace SimSweep.Tool

open Kernel
open World (Sound)

/-! ## Section 1: Deeds -/

/-- The work of a deed keeps a property of the system, with any arguments. -/
def Deed.Keeps {α : Type} (P : World → Prop) (x : Deed α) : Prop :=
  ∀ call, Work.Keeps P (x.run call).run

namespace Deed.Keeps

variable {P : World → Prop} {α β : Type}

theorem pure (a : α) : Keeps P (Pure.pure a : Deed α) := fun _ => .pure _

theorem bind {x : Deed α} {f : α → Deed β} (hx : x.Keeps P) (hf : ∀ a, (f a).Keeps P) :
    Keeps P (x >>= f) := by
  intro call
  refine Work.Keeps.bind (x := (x.run call).run)
    (f := fun result => ExceptT.bindCont (fun a => (f a).run call) result) (hx call) ?_
  intro result
  cases result with
  | ok a => exact hf a call
  | error status => exact .pure _

/-- Work is a deed that is never cut short. -/
theorem work {x : Work α} (hx : Work.Keeps P x) : Keeps P (liftM x : Deed α) :=
  fun _ _ hk => hx _ fun a => hk (.ok a)

theorem read : Keeps P (MonadReaderOf.read : Deed Call) := fun _ => .pure _

theorem stop (status : Nat) : Keeps P (Tool.stop status : Deed α) := fun _ => .pure _

/-- One deed for each member of a list. -/
theorem mapM {f : α → Deed β} (hf : ∀ a, (f a).Keeps P) (as : List α) :
    Keeps P (as.mapM f) := by
  have hloop : ∀ as bs, Keeps P (List.mapM.loop f as bs) := by
    intro as
    induction as with
    | nil => exact fun bs => .pure _
    | cons a as ih => exact fun bs => .bind (hf a) fun b => ih (b :: bs)
  exact hloop as []

theorem forM {f : α → Deed PUnit} (hf : ∀ a, (f a).Keeps P) (as : List α) :
    Keeps P (as.forM f) := by
  induction as with
  | nil => exact .pure _
  | cons a as ih => exact .bind (hf a) fun _ => ih

theorem toWork {x : Deed Nat} (hx : x.Keeps P) (call : Call) :
    Work.Keeps P (x.toWork call) := by
  refine .bind (hx call) fun result => ?_
  cases result with
  | ok n => exact .pure _
  | error n => exact .pure _

end Deed.Keeps

open Deed (Keeps)

theorem keeps_say (s : String) : Keeps Sound (say s) :=
  .bind (.work (Work.keeps_writeText 2 s)) fun _ => .pure _

theorem keeps_complain (message : String) : Keeps Sound (complain message) :=
  .bind .read fun _ => keeps_say _

theorem keeps_abort {α : Type} (message : String) (status : Nat) :
    Keeps Sound (abort message status : Deed α) :=
  .bind (keeps_complain message) fun _ => .stop status

theorem keeps_hint {α : Type} (status : Nat) : Keeps Sound (hint status : Deed α) :=
  .bind .read fun _ => .bind (keeps_say _) fun _ => .stop status

theorem keeps_misuse {α : Type} (message : String) (status : Nat) :
    Keeps Sound (misuse message status : Deed α) :=
  .bind (keeps_complain message) fun _ => keeps_hint status

theorem keeps_put (s : String) : Keeps Sound (put s) := by
  refine .bind (.work (Work.keeps_writeText 1 s)) fun result => ?_
  cases result with
  | ok _ => exact .pure _
  | error f => exact keeps_abort _ 1

/-! ## Section 2: Tools -/

theorem keeps_echo : Keeps Sound echo := by
  refine .bind .read fun call => ?_
  exact .bind (keeps_put _) fun _ => .pure _

theorem keeps_printf : Keeps Sound printf := by
  refine .bind .read fun call => ?_
  split
  · exact keeps_misuse _ 1
  · exact .bind (keeps_put _) fun _ =>
      .bind (.forM (fun c => keeps_complain _) _) fun _ => .pure _

theorem keeps_test (isBracket : Bool) : Keeps Sound (test isBracket) := by
  refine .bind .read fun call => ?_
  dsimp only
  split
  -- with or without the complaint about the bracket in front of it
  on_goal 1 => refine .bind (keeps_complain _) fun _ => .bind (.stop 2) fun _ => ?_
  all_goals
    refine .bind (.work (.look _)) fun result => ?_
    cases result with
    | ok b => exact .pure _
    | error f => exact .bind (keeps_complain _) fun _ => .pure _

/-- A signal is one that a process can be told of, or the one that only asks for a process. -/
theorem keeps_kill : Keeps Sound kill := by
  refine .bind .read fun call => ?_
  -- the first one is what follows on a signal that was sent
  extract_lets args done send none_ named usual
  have hsend : ∀ signal targets, (signal.number ≠ 0 → (Exit.signal signal.number).Fits) →
      Keeps Sound (send signal targets) := by
    intro signal targets hsignal
    refine .bind (.mapM (fun target => ?_) targets) fun results => .pure _
    split
    · refine .bind (.work (.look _)) fun isThere => ?_
      split
      · split
        · exact .bind (.work (Work.keeps_signal _ (hsignal ‹_›))) fun _ => .pure _
        · exact .pure _
      · exact .bind (keeps_complain _) fun _ => .pure _
    · exact .bind (keeps_complain _) fun _ => .pure _
  have hnamed : ∀ s signal, named s = some signal → signal.number ≠ 0 →
      (Exit.signal signal.number).Fits := by
    intro s signal hfound hne
    simp only [named] at hfound
    split at hfound
    · cases hfound
      exact absurd rfl hne
    · exact Signal.fits_of_ofText? hfound
  have husual : (Exit.signal usual.number).Fits := by
    show 1 ≤ 15 ∧ 15 ≤ 126
    decide
  clear_value args
  split
  · split
    · exact hsend _ _ (hnamed _ _ ‹_›)
    · exact keeps_abort _ 1
  · split
    · exact hsend _ _ (hnamed _ _ ‹_›)
    · exact keeps_abort _ 1
  · split
    · exact hsend _ _ fun _ => husual
    · split
      · exact hsend _ _ (hnamed _ _ ‹_›)
      · exact keeps_abort _ 1
    · exact hsend _ _ fun _ => husual
  · exact keeps_abort _ 1

/-- The names of the programs that are dealt with here. -/
def plainNames : List String := ["true", "false", "echo", "printf", "test", "[", "kill"]

/-- Whatever runs other programs, these keep the system sound under their names. -/
theorem keeps_perform (host : Host) {name : String} (hname : name ∈ plainNames) (call : Call) :
    Work.Keeps Sound (perform host name call) := by
  simp only [plainNames, List.mem_cons, List.not_mem_nil, or_false] at hname
  rcases hname with rfl | rfl | rfl | rfl | rfl | rfl | rfl
  · exact Deed.Keeps.toWork (.pure 0) call
  · exact Deed.Keeps.toWork (.pure 1) call
  · exact keeps_echo.toWork call
  · exact keeps_printf.toWork call
  · exact (keeps_test false).toWork call
  · exact (keeps_test true).toWork call
  · exact keeps_kill.toWork call

end SimSweep.Tool
