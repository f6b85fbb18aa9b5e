import SimSweep.Proofs.Arguments.Sayings

/-! # Switches among the words

    A switch has one word, its name behind two dashes. Main statement: if words can be read
    as arguments, a switch is set in them exactly if its word is among the words
    (`isSet_iff_mem`). So it makes no difference where the word stands, and what looks like
    a switch is one.

    This is not so for words that cannot be read: an argument that waits for its value is not
    given it by the word of a switch, and behind the word of two dashes every word is a
    value. The invariant of the reading (`Progress.Tracks`) is that the draft has the
    switch set if its word has come, or that the word has been taken for a run index. That
    is one no longer once the run index is checked, since no number starts with two dashes.
-/

namespace SimSweep.Usage

/-! ## Section 1: What comes of a reading that succeeds -/

/-- If a computation gives something it has a property. -/
def Yields {ε α : Type} (P : α → Prop) (x : Except ε α) : Prop := ∀ a, x = .ok a → P a

namespace Yields

variable {ε ε' α β : Type} {P : α → Prop} {Q : β → Prop}

theorem ok {a : α} (h : P a) : Yields P (.ok a : Except ε α) := by
  intro b hb
  cases hb
  exact h

theorem error (e : ε) : Yields P (.error e : Except ε α) := by
  intro b hb
  cases hb

theorem mono {P' : α → Prop} {x : Except ε α} (h : Yields P x) (hp : ∀ a, P a → P' a) :
    Yields P' x := fun a ha => hp a (h a ha)

/-- What the first computation gives is handed to the second one. -/
theorem bind {x : Except ε α} {f : α → Except ε β} (hx : Yields P x)
    (hf : ∀ a, P a → Yields Q (f a)) : Yields Q (x >>= f) := by
  cases x with
  | error e => exact .error e
  | ok a => exact hf a (hx a rfl)

/-- It may not matter what the first computation gives. -/
theorem after {x : Except ε α} {f : α → Except ε β} (hf : ∀ a, Yields Q (f a)) :
    Yields Q (x >>= f) :=
  .bind (P := fun _ => True) (fun _ _ => trivial) fun a _ => hf a

theorem ite {c : Prop} [Decidable c] {x y : Except ε α} (hx : Yields P x) (hy : Yields P y) :
    Yields P (if c then x else y) := by
  split
  · exact hx
  · exact hy

theorem mapError {f : ε → ε'} {x : Except ε α} (hx : Yields P x) : Yields P (x.mapError f) := by
  cases x with
  | error e => exact .error (f e)
  | ok a => exact .ok (hx a rfl)

end Yields

/-! ## Section 2: The word of a switch -/

/-- The word of a switch. -/
def Switch.word (s : Switch) : Word := (Named.switch s).word none

theorem Switch.mem_named (s : Switch) : Named.switch s ∈ named := by
  cases s <;> decide

/-- Two dashes and a name are put together again. -/
theorem WordForm.eq_of_long {v name : Word} (h : WordForm.of v = .long name none) :
    v = some '-' :: some '-' :: name := by
  unfold WordForm.of at h
  split at h
  · cases h
  · next rest _ =>
    dsimp only at h
    split at h
    · cases h
    · next hdrop =>
      cases h
      -- nothing is behind the name
      have hlength := List.drop_eq_nil_iff.mp hdrop
      rw [(List.takeWhile_prefix _).eq_of_length_le hlength]
  · cases h
  · cases h

theorem eq_ofString_of_text? {w : Word} {s : String} (h : w.text? = some s) :
    w = Word.ofString s := by
  obtain ⟨cs, hcs, rfl⟩ := Option.map_eq_some_iff.mp h
  unfold Word.ofString
  rw [String.toList_ofList]
  clear h
  induction w generalizing cs with
  | nil =>
    cases hcs
    rfl
  | cons c rest ih =>
    rw [List.mapM_cons] at hcs
    obtain ⟨d, hd, hrest⟩ := Option.bind_eq_some_iff.mp hcs
    obtain ⟨ds, hds, hcons⟩ := Option.bind_eq_some_iff.mp hrest
    cases hcons
    rw [List.map_cons, ← ih ds hds]
    exact congrArg (· :: rest) hd

theorem Named.eq_name_of_ofName? {s : String} {a : Named} (h : ofName? s = some a) :
    s = a.name := by
  have hfound := List.find?_some h
  exact (of_decide_eq_true hfound).symm

section

variable {s : Switch} {v name : Word} {value : Option Word}

/-- What the word of a switch means. -/
theorem Switch.of_eq_word (hform : WordForm.of v = .long name value) (h : v = s.word) :
    name.text?.bind Named.ofName? = some (.switch s) ∧ value = none := by
  rw [h, Switch.word, WordForm.of_word s.mem_named, WordForm.long.injEq] at hform
  obtain ⟨rfl, rfl⟩ := hform
  rw [text?_ofString, Option.bind_some, Named.ofName?_name s.mem_named]
  exact ⟨rfl, rfl⟩

/-- What means a switch is its word. -/
theorem Switch.eq_word (hform : WordForm.of v = .long name none)
    (h : name.text?.bind Named.ofName? = some (.switch s)) : v = s.word := by
  obtain ⟨t, ht, hname⟩ := Option.bind_eq_some_iff.mp h
  rw [WordForm.eq_of_long hform, eq_ofString_of_text? ht, Named.eq_name_of_ofName? hname]
  show _ = Word.ofString ("--" ++ s.name)
  unfold Word.ofString
  rw [String.toList_append]
  rfl

theorem Switch.word_injective {s' : Switch} (h : s.word = s'.word) : s = s' :=
  Named.switch.inj (Named.word_injective s.mem_named s'.mem_named h).1

/-- The word of a switch is the numeral of nothing. -/
theorem readRun_switch (slot : Slot) (s : Switch) (i : Int64) : readRun slot s.word ≠ .ok i := by
  have hread : ∃ f, readInt 63 ("--" ++ s.name).toList = .error f := by
    cases s <;> exact ⟨.invalidDigit, by decide⟩
  obtain ⟨f, hf⟩ := hread
  intro h
  unfold readRun textOf Switch.word Named.word at h
  simp only [text?_ofString, Named.name, bind, Except.bind, hf] at h
  cases h

end

/-! ## Section 3: Drafts -/

section

variable (s : Switch) (d : Draft)

/-- Values leave the switches alone. -/
theorem Draft.isSet_setValue (slot : Slot) (w : Word) :
    Yields (fun d' => d'.isSet s = d.isSet s) (d.setValue slot w) := by
  -- whatever comes of the value, it is put beside the switches
  have hkept : ∀ a : Arguments, (∀ t, ({ d with given := a } : Draft).isSet t = d.isSet t) →
      Yields (fun d' => d'.isSet s = d.isSet s) (.ok { d with given := a } : Except Fault Draft) :=
    fun a h => .ok (h s)
  cases slot with
  | firstRun => exact .after fun _ => .ok (by cases s <;> rfl)
  | lastRun => exact .after fun _ => .ok (by cases s <;> rfl)
  | preset => exact .ite (.error _) (.after fun _ => hkept _ fun t => by cases t <;> rfl)
  | _ => exact .after fun _ => hkept _ fun t => by cases t <;> rfl

/-- The word of a switch is no run index. -/
theorem Draft.setValue_switch {slot : Slot} (h : slot ∈ loneSlots) :
    Yields (fun _ => False) (d.setValue slot s.word) := by
  have hread : ∀ slot, Yields (fun _ => False) (readRun slot s.word) := fun slot i hi =>
    readRun_switch slot s i hi
  have hlone : slot = .firstRun ∨ slot = .lastRun := by simpa [loneSlots] using h
  rcases hlone with rfl | rfl
  · exact .bind (hread .firstRun) fun _ h => h.elim
  · exact .bind (hread .lastRun) fun _ h => h.elim

/-- A switch that is set is set besides those that were. -/
theorem Draft.isSet_setSwitch (s' : Switch) :
    Yields (fun d' => d'.isSet s = true ↔ d.isSet s = true ∨ s = s') (d.setSwitch s') := by
  refine .ite (.error _) (.ok ?_)
  cases s' <;> cases s <;> simp [isSet]

theorem Draft.isSet_finish : Yields (fun a => a.isSet s = d.isSet s) d.finish := by
  unfold finish
  split
  · exact .ok (by cases s <;> rfl)
  · exact .error _
  · exact .error _
  · exact .error _

end

/-! ## Section 4: One word -/

/-- The word of a switch waits to be checked as a run index. -/
def Progress.Stuck (s : Switch) (p : Progress) : Prop :=
  ∃ slot ∈ loneSlots, p.pending = some (slot, some s.word)

/-- Some words have been read: the switch is set if its word is among them, unless the word
    has been taken for a run index. -/
structure Progress.Tracks (s : Switch) (done : List Word) (p : Progress) : Prop where
  expected : ∀ slot ∈ p.expected, slot ∈ loneSlots
  isSet : ¬ p.Stuck s → (p.draft.isSet s = true ↔ s.word ∈ done)

/-- The same with nothing left to be checked. -/
structure Progress.Settled (s : Switch) (done : List Word) (p : Progress) : Prop where
  expected : ∀ slot ∈ p.expected, slot ∈ loneSlots
  isSet : p.draft.isSet s = true ↔ s.word ∈ done

namespace Progress

section Steps

variable {s : Switch} {done : List Word} {p : Progress} {v : Word}

theorem Settled.tracks (h : p.Settled s done) : p.Tracks s done := ⟨h.expected, fun _ => h.isSet⟩

/-- The words with one more that is not that of the switch. -/
theorem mem_append_of_ne (hv : v ≠ s.word) : s.word ∈ done ++ [v] ↔ s.word ∈ done := by
  rw [List.mem_append, List.mem_singleton]
  exact ⟨fun hmem => hmem.elim id fun heq => absurd heq.symm hv, .inl⟩

/-- What waits is checked. The word of a switch among the run indices is found out. -/
theorem Tracks.settle (h : p.Tracks s done) : Yields (fun q => q.Settled s done) p.settle := by
  obtain ⟨draft, pending, expected, onlyValues⟩ := p
  rcases pending with _ | ⟨slot, _ | w⟩
  · exact .ok ⟨h.expected, h.isSet fun ⟨_, _, heq⟩ => by cases heq⟩
  · exact .error _
  · by_cases hstuck : Stuck s ⟨draft, some (slot, some w), expected, onlyValues⟩
    · obtain ⟨slot', hslot, heq⟩ := hstuck
      cases heq
      exact .bind (draft.setValue_switch s hslot) fun _ h => h.elim
    · refine .bind (draft.isSet_setValue s slot w) fun d' hd' => .ok ⟨h.expected, ?_⟩
      show d'.isSet s = true ↔ _
      rw [hd']
      exact h.isSet hstuck

/-- A request is answered, so the words are not read to their end. -/
theorem answer_yields (P : Progress → Prop) (r : Request) (long : Bool) :
    Yields P (p.answer r long) := by
  refine .after fun _ => ?_
  cases r <;> exact .error _

theorem Tracks.takeNamed (h : p.Tracks s done) {name : Word} {value : Option Word}
    (hform : WordForm.of v = .long name value) :
    Yields (Tracks s (done ++ [v])) (p.takeNamed name value) := by
  -- a word that means something else is not the word of the switch
  have hother : ∀ {a}, name.text?.bind Named.ofName? = some a → a ≠ .switch s → v ≠ s.word :=
    fun hmeans hne heq => hne (Option.some.inj (hmeans.symm.trans (Switch.of_eq_word hform heq).1))
  unfold Progress.takeNamed
  split
  · exact .error _
  · exact answer_yields _ _ _
  · next s' hmeans =>
    refine .mapError (.bind h.settle fun q hq => ?_)
    refine .bind (q.draft.isSet_setSwitch s s') fun d hd => .ok (Settled.tracks ⟨hq.expected, ?_⟩)
    have hv := Switch.eq_word hform hmeans
    show d.isSet s = true ↔ _
    rw [hd, hq.isSet, List.mem_append, List.mem_singleton, hv]
    exact or_congr_right ⟨congrArg Switch.word, Switch.word_injective⟩
  · next slot hmeans =>
    have hv := hother hmeans (by simp)
    refine .mapError (.bind h.settle fun q hq => .ok ⟨hq.expected, fun _ => ?_⟩)
    rw [mem_append_of_ne hv]
    exact hq.isSet
  · next slot w hmeans =>
    have hv := hother hmeans (by simp)
    refine .mapError (.bind h.settle fun q hq => ?_)
    refine .bind (q.draft.isSet_setValue s slot w) fun d hd => .ok ⟨hq.expected, fun _ => ?_⟩
    show d.isSet s = true ↔ _
    rw [mem_append_of_ne hv, hd]
    exact hq.isSet
  · exact .error _

/-- A lone value may be the word of a switch, which is stuck then. -/
theorem Tracks.takeLone (h : p.Tracks s done) : Yields (Tracks s (done ++ [v])) (p.takeLone v) := by
  obtain ⟨draft, pending, expected, onlyValues⟩ := p
  cases expected with
  | nil => exact .error _
  | cons slot rest =>
    obtain ⟨hslot, hrest⟩ := List.forall_mem_cons.mp h.expected
    refine .mapError (.bind h.settle fun q hq => .ok ⟨hrest, fun hstuck => ?_⟩)
    have hv : v ≠ s.word := fun heq => hstuck ⟨slot, hslot, by rw [heq]⟩
    rw [mem_append_of_ne hv]
    exact hq.isSet

/-- A value that an argument waits for is not the word of a switch. -/
theorem Tracks.takeValue (h : p.Tracks s done) (hv : p.onlyValues = false → v ≠ s.word) :
    Yields (Tracks s (done ++ [v])) (p.takeValue v) := by
  unfold Progress.takeValue
  split
  · next slot hpending honly =>
    refine .ok ⟨h.expected, fun _ => ?_⟩
    rw [mem_append_of_ne (hv honly)]
    refine h.isSet fun ⟨_, _, heq⟩ => ?_
    cases hpending.symm.trans heq
  · exact h.takeLone

/-- What a word means for a switch. -/
theorem Tracks.take (h : p.Tracks s done) : Yields (Tracks s (done ++ [v])) (p.take v) := by
  -- the word of the switch has a name
  have hother : (∀ name value, WordForm.of v ≠ .long name value) → v ≠ s.word := by
    intro hform heq
    rw [heq, Switch.word, WordForm.of_word s.mem_named] at hform
    exact hform _ _ rfl
  unfold Progress.take
  by_cases honly : p.onlyValues = true
  · rw [if_pos honly]
    exact h.takeValue fun hno => by rw [hno] at honly; cases honly
  · rw [if_neg honly]
    cases hform : WordForm.of v with
    | separator =>
      have hv := hother fun name value heq => by cases hform.symm.trans heq
      refine .ok ⟨h.expected, fun hstuck => ?_⟩
      rw [mem_append_of_ne hv]
      exact h.isSet hstuck
    | long name value => exact h.takeNamed hform
    | plain =>
      have hv := hother fun name value heq => by cases hform.symm.trans heq
      exact h.takeValue fun _ => hv
    | short letters =>
      have hv := hother fun name value heq => by cases hform.symm.trans heq
      refine .ite (h.takeValue fun _ => hv) ?_
      split
      · split
        · exact answer_yields _ _ _
        · exact .error _
      · exact .error _

/-- All words, one after the other. Induction on the words that are left. -/
theorem Tracks.foldlM (h : p.Tracks s done) (words : List Word) :
    Yields (Tracks s (done ++ words)) (words.foldlM Progress.take p) := by
  induction words generalizing p done with
  | nil =>
    rw [List.append_nil]
    exact .ok h
  | cons v rest ih =>
    rw [List.foldlM_cons]
    refine .bind h.take fun p' hp' => ?_
    have hrest := ih hp'
    rwa [List.append_assoc, List.singleton_append] at hrest

end Steps

end Progress

/-! ## Section 5: All words -/

/-- In words that can be read a switch is set exactly if its word is among them. -/
theorem isSet_iff_mem {words : List Word} {a : Arguments} (h : read words = .ok a) (s : Switch) :
    a.isSet s = true ↔ s.word ∈ words := by
  have hstart : Progress.Tracks s [] {} :=
    ⟨fun _ hslot => hslot, fun _ => by cases s <;> simp [Draft.isSet]⟩
  have hread : Yields (fun a => a.isSet s = true ↔ s.word ∈ words) (read words) := by
    refine .bind (hstart.foldlM words) fun p hp => .mapError (.bind hp.settle fun q hq => ?_)
    refine (q.draft.isSet_finish s).mono fun a ha => ?_
    rw [ha]
    exact hq.isSet
  exact hread a h

/-- The word of a switch is no switch where only run indices are left, and no run index. -/
example : (read (["1", "--", "--color"].map Word.ofString)).toOption = none := by decide +kernel

end SimSweep.Usage
