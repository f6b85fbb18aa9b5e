import Mathlib.Data.List.Perm.Subperm
import Mathlib.Order.Bounds.Basic
import SimSweep.Proofs.Kernel.Processes

/-! # Descriptors

    What is done to a descriptor of the present process is seen of that descriptor only, and
    what is opened gets the least number that is free. Main statements: `freeNumber_isLeast`,
    `handle?_addHandle` and `handle?_makePipe`, which say where every descriptor leads after
    something was opened, and that all of this keeps a system sound.
-/

namespace SimSweep.Kernel.World

variable {w : World}

/-! ## Section 1: Finding processes -/

/-- A change that leaves numbers alone is found where the process was found. -/
theorem process?_changeProcess (w : World) (id : Nat) {f : Process → Process}
    (hid : ∀ p, (f p).id = p.id) (other : Nat) :
    (w.changeProcess id f).process? other =
      (w.process? other).map fun p => if p.id == id then f p else p := by
  unfold process? changeProcess
  rw [List.find?_map]
  congr 2
  funext p
  simp only [Function.comp_def]
  split
  · rw [hid p]
  · rfl

/-- The process that is doing something is there. -/
def IsPresent (w : World) : Prop := ∃ p, w.process? w.current = some p

/-- The process that is doing something changes itself. -/
theorem self_changeSelf (h : w.IsPresent) {f : Process → Process} (hid : ∀ p, (f p).id = p.id) :
    (w.changeSelf f).self = f w.self := by
  obtain ⟨p, hp⟩ := h
  have hcurrent : (p.id == w.current) = true :=
    List.find?_some (p := fun q : Process => q.id == w.current) hp
  have hfound : (w.changeSelf f).process? w.current = some (f p) := by
    unfold changeSelf
    rw [process?_changeProcess w w.current hid, hp, Option.map_some, if_pos hcurrent]
  show ((w.changeSelf f).process? w.current).getD nobody = f ((w.process? w.current).getD nobody)
  rw [hfound, hp]
  rfl

theorem IsPresent.changeSelf (h : w.IsPresent) {f : Process → Process}
    (hid : ∀ p, (f p).id = p.id) : (w.changeSelf f).IsPresent := by
  obtain ⟨p, hp⟩ := h
  refine ⟨if p.id == w.current then f p else p, ?_⟩
  show (w.changeProcess w.current f).process? w.current = _
  rw [process?_changeProcess w w.current hid, hp, Option.map_some]

/-! ## Section 2: Where descriptors lead -/

theorem descriptors_changeSelf (h : w.IsPresent) (f : List Descriptor → List Descriptor) :
    (w.changeSelf fun p => { p with descriptors := f p.descriptors }).self.descriptors =
      f w.self.descriptors :=
  congrArg Process.descriptors
    (self_changeSelf h (f := fun p => { p with descriptors := f p.descriptors }) fun _ => rfl)

theorem descriptors_close (h : w.IsPresent) (number : Nat) :
    (w.close number).self.descriptors = w.self.descriptors.filter (·.number != number) :=
  descriptors_changeSelf h (List.filter (·.number != number))

theorem descriptors_lead (h : w.IsPresent) (number handle : Nat) (isPrivate : Bool) :
    (w.lead number handle isPrivate).self.descriptors =
      ⟨number, handle, isPrivate⟩ :: w.self.descriptors.filter (·.number != number) :=
  descriptors_changeSelf h fun ds => ⟨number, handle, isPrivate⟩ :: ds.filter (·.number != number)

theorem descriptor?_close (h : w.IsPresent) (number other : Nat) :
    (w.close number).descriptor? other =
      if other = number then none else w.descriptor? other := by
  unfold descriptor?
  rw [descriptors_close h, List.find?_filter]
  split_ifs with hother
  · rw [List.find?_eq_none]
    intro d _
    simp [hother]
  · congr 1
    funext d
    by_cases hd : d.number = other
    · simp [hd, hother]
    · simp [hd]

theorem descriptor?_lead (h : w.IsPresent) (number handle : Nat) (isPrivate : Bool)
    (other : Nat) :
    (w.lead number handle isPrivate).descriptor? other =
      if other = number then some ⟨number, handle, isPrivate⟩ else w.descriptor? other := by
  have hrest := descriptor?_close h number other
  unfold descriptor? at hrest ⊢
  rw [descriptors_close h] at hrest
  rw [descriptors_lead h, List.find?_cons, hrest]
  by_cases hother : other = number
  · simp [hother]
  · simp [hother, beq_eq_false_iff_ne.mpr (Ne.symm hother)]

/-- Of the numbers that are no descriptors, from some number on, the least is found. One of
    them is found, since there are more numbers to choose from than descriptors. -/
theorem freeNumber_isLeast (w : World) (least : Nat) :
    IsLeast {n | least ≤ n ∧ w.descriptor? n = none} (w.freeNumber least) := by
  let used := w.self.descriptors.map (·.number)
  have hfree : ∀ n, w.descriptor? n = none ↔ n ∉ used := by
    intro n
    unfold descriptor?
    rw [List.find?_eq_none]
    simp [used]
  have hfind : w.freeNumber least =
      ((List.range (used.length + 1)).find? fun n => !used.contains (least + n)).getD 0 +
        least := rfl
  cases hfound : (List.range (used.length + 1)).find? fun n => !used.contains (least + n) with
  | none =>
    -- the numbers to choose from would all be among the descriptors
    have hused : ∀ n ∈ List.range (used.length + 1), least + n ∈ used := by
      intro n hn
      simpa using List.find?_eq_none.mp hfound n hn
    have hnodup : ((List.range (used.length + 1)).map (least + ·)).Nodup :=
      List.nodup_range.map fun a b hab => Nat.add_left_cancel hab
    have hsubset : (List.range (used.length + 1)).map (least + ·) ⊆ used := by
      intro n hn
      obtain ⟨k, hk, rfl⟩ := List.mem_map.mp hn
      exact hused k hk
    have hlength := (List.subperm_of_subset hnodup hsubset).length_le
    rw [List.length_map, List.length_range] at hlength
    omega
  | some n =>
    rw [hfind, hfound, Option.getD_some]
    obtain ⟨hn, i, hi, rfl, hbefore⟩ := List.find?_eq_some_iff_getElem.mp hfound
    rw [List.length_range] at hi
    simp only [List.getElem_range] at hn hbefore ⊢
    constructor
    · refine ⟨Nat.le_add_left .., (hfree _).mpr ?_⟩
      rw [Nat.add_comm]
      simpa using hn
    · rintro m ⟨hle, hm⟩
      by_contra hlt
      have hused := hbefore (m - least) (by omega)
      rw [Nat.add_sub_cancel' hle] at hused
      exact (hfree m).mp hm (by simpa using hused)

/-- The open file of a descriptor is one that was opened. -/
theorem Sound.handle_lt (h : w.Sound) {number : Nat} {d : Descriptor}
    (hd : w.descriptor? number = some d) : d.handle < w.handles.size :=
  h.self.leads d (List.mem_of_find?_eq_some hd)

/-! ## Section 3: Opening and closing -/

theorem handle?_close (h : w.IsPresent) (number other : Nat) :
    (w.close number).handle? other = if other = number then none else w.handle? other := by
  unfold handle?
  rw [descriptor?_close h]
  split
  · rfl
  · rfl

/-- What is opened gets the least number that is free, and nothing else changes. -/
theorem handle?_addHandle (h : w.Sound) (hpresent : w.IsPresent) (opened : Handle)
    (other : Nat) :
    (w.addHandle opened).1.handle? other =
      if other = (w.addHandle opened).2 then some (w.handles.size, opened)
      else w.handle? other := by
  let grown : World := { w with handles := w.handles.push opened }
  have hled : (w.addHandle opened).1.descriptor? other =
      if other = w.freeNumber 0 then some ⟨w.freeNumber 0, w.handles.size, false⟩
      else w.descriptor? other :=
    descriptor?_lead (w := grown) hpresent _ _ false other
  have hnumber : (w.addHandle opened).2 = w.freeNumber 0 := rfl
  have hhandles : (w.addHandle opened).1.handles = w.handles.push opened := rfl
  unfold handle?
  rw [hled, hhandles, hnumber]
  split
  · simp
  · cases hd : w.descriptor? other with
    | none => rfl
    | some d =>
      have hlt := h.handle_lt hd
      simp [Array.getElem?_push_lt, hlt]

/-- Nothing is behind the number that something gets when it is opened. -/
theorem handle?_addHandle_number (w : World) (opened : Handle) :
    w.handle? (w.addHandle opened).2 = none := by
  have hfree : w.descriptor? (w.freeNumber 0) = none := (freeNumber_isLeast w 0).1.2
  show w.handle? (w.freeNumber 0) = none
  unfold handle?
  rw [hfree]
  rfl

theorem Sound.changeSelf (h : w.Sound) {f : Process → Process} (hid : ∀ p, (f p).id = p.id)
    (hf : ∀ p, p.Sound w.handles.size → (f p).Sound w.handles.size) : (w.changeSelf f).Sound :=
  h.changeProcess w.current hid fun p _ => hf p

theorem Sound.close (h : w.Sound) (number : Nat) : (w.close number).Sound :=
  congr (h.changeSelf
    (f := fun p => { p with descriptors := p.descriptors.filter (·.number != number) })
    (fun _ => rfl) fun _ hp => hp.filter _) rfl rfl rfl

theorem Sound.lead (h : w.Sound) (number : Nat) {handle : Nat} (hlt : handle < w.handles.size)
    (isPrivate : Bool) : (w.lead number handle isPrivate).Sound :=
  congr (h.changeSelf
    (f := fun p => { p with descriptors :=
      ⟨number, handle, isPrivate⟩ :: p.descriptors.filter (·.number != number) })
    (fun _ => rfl) fun _ hp => hp.lead number hlt isPrivate) rfl rfl rfl

theorem Sound.addHandle (h : w.Sound) (opened : Handle) : (w.addHandle opened).1.Sound := by
  have hgrown : Sound { w with handles := w.handles.push opened } := h.grow (by simp)
  exact hgrown.lead (w.freeNumber 0) (by simp) false

/-- A copy leads where the descriptor leads of which it is one. -/
theorem Sound.copyDescriptor (h : w.Sound) {source target : Nat} {isPrivate : Bool} {w' : World}
    (hcopied : w.copyDescriptor source target isPrivate = .ok w') : w'.Sound := by
  unfold World.copyDescriptor at hcopied
  split at hcopied
  · rename_i d hd
    cases hcopied
    exact h.lead target (h.handle_lt hd) isPrivate
  · cases hcopied

theorem Sound.makePipe (h : w.Sound) : w.makePipe.1.Sound := by
  have hpiped : Sound { w with pipes := w.pipes.push {} } := h.congr rfl rfl rfl
  exact (hpiped.addHandle _).addHandle _

/-- The two ends of a new pipe have numbers of their own, and nothing else changes. -/
theorem handle?_makePipe (h : w.Sound) (hpresent : w.IsPresent) :
    let made := w.makePipe
    made.2.1 ≠ made.2.2 ∧ made.1.pipes = w.pipes.push {} ∧
    (made.1.handle? made.2.1).map Prod.snd =
      some { target := .source w.pipes.size, reads := true, writes := false } ∧
    (made.1.handle? made.2.2).map Prod.snd =
      some { target := .drain w.pipes.size, reads := false, writes := true } ∧
    ∀ number, number ≠ made.2.1 → number ≠ made.2.2 →
      made.1.handle? number = w.handle? number := by
  let source : Handle := { target := .source w.pipes.size, reads := true, writes := false }
  let drain : Handle := { target := .drain w.pipes.size, reads := false, writes := true }
  let piped : World := { w with pipes := w.pipes.push {} }
  let first := piped.addHandle source
  let second := first.1.addHandle drain
  have hpiped : piped.Sound := h.congr rfl rfl rfl
  have hfirst : first.1.IsPresent :=
    IsPresent.changeSelf (w := { piped with handles := piped.handles.push source }) hpresent
      fun _ => rfl
  have hsource : ∀ number, first.1.handle? number =
      if number = first.2 then some (w.handles.size, source) else w.handle? number :=
    handle?_addHandle hpiped hpresent source
  have hdrain : ∀ number, second.1.handle? number =
      if number = second.2 then some (first.1.handles.size, drain) else first.1.handle? number :=
    handle?_addHandle (hpiped.addHandle source) hfirst drain
  -- the second number was free when the first one was taken
  have hne : first.2 ≠ second.2 := by
    intro heq
    have hnone : first.1.handle? second.2 = none := handle?_addHandle_number first.1 drain
    rw [hsource, if_pos heq.symm] at hnone
    cases hnone
  refine ⟨hne, rfl, ?_, ?_, ?_⟩
  · show (second.1.handle? first.2).map Prod.snd = some source
    rw [hdrain, if_neg hne, hsource, if_pos rfl]
    rfl
  · show (second.1.handle? second.2).map Prod.snd = some drain
    rw [hdrain, if_pos rfl]
    rfl
  · intro number (hother : number ≠ first.2) (hother' : number ≠ second.2)
    show second.1.handle? number = w.handle? number
    rw [hdrain, if_neg hother', hsource, if_neg hother]

/-! ## Section 4: Files -/

/-- Whatever a node is, it is opened like anything else, or not at all. A file is emptied
    before. -/
theorem Sound.openNode (h : w.Sound) {id : Nat} {o : Opening} {w' : World} {number : Nat}
    (hopened : w.openNode id o = .ok (w', number)) : w'.Sound := by
  have hadded : ∀ {v : World} {opened : Handle}, v.Sound →
      Except.ok (v.addHandle opened) = (.ok (w', number) : Except Fault (World × Nat)) →
        w'.Sound := by
    intro v opened hv heq
    have hw' : (v.addHandle opened).1 = w' := congrArg Prod.fst (Except.ok.inj heq)
    exact hw' ▸ hv.addHandle opened
  unfold World.openNode at hopened
  dsimp only at hopened
  split at hopened
  · split at hopened
    · cases hopened
    · exact hadded h hopened
  · cases hopened
  · split at hopened
    · cases hopened
    · split at hopened
      all_goals exact hadded h hopened
  · exact hadded h hopened
  · split at hopened
    · cases hopened
    · exact hadded h hopened
  · refine hadded ?_ hopened
    split
    · exact h.congr rfl rfl rfl
    · exact h
  · exact hadded h hopened

theorem Sound.openFile (h : w.Sound) {path : String} {o : Opening} {mode : Nat} {w' : World}
    {number : Nat} (hopened : w.openFile path o mode = .ok (w', number)) : w'.Sound := by
  unfold World.openFile at hopened
  cases hplace : w.resolve path with
  | error f =>
    rw [hplace] at hopened
    cases hopened
  | ok place =>
    rw [hplace] at hopened
    simp only [bind, Except.bind] at hopened
    split at hopened
    · split at hopened
      · cases hopened
      · exact h.openNode hopened
    · split at hopened
      · cases hopened
      · split at hopened
        · cases hopened
        · refine openNode ?_ hopened
          exact h.congr rfl rfl rfl

/-- Bytes that are written or read change files, pipes and places in them. -/
theorem Sound.put (h : w.Sound) {handle : Nat} {opened : Handle} {bytes : ByteArray}
    {w' : World} (hput : w.put handle opened bytes = .ok w') : w'.Sound := by
  unfold World.put at hput
  split at hput
  · cases hput
    exact h.congr rfl rfl rfl
  · cases hput
    exact h.congr rfl rfl rfl
  · cases hput
  · split at hput
    · cases hput
    · cases hput
      exact h
    · cases hput
      exact h.congr rfl rfl (by simp)
    · cases hput

theorem Sound.advance (h : w.Sound) (handle : Nat) (opened : Handle) (count : Nat) :
    (w.advance handle opened count).Sound := by
  unfold World.advance
  split
  · exact h.congr rfl rfl rfl
  · exact h.congr rfl rfl (by simp)

end SimSweep.Kernel.World
