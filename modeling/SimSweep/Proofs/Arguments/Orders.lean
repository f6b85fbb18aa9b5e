import SimSweep.Proofs.Arguments.Sayings

/-! # Arguments in any order

    The words of arguments are read back as the arguments, in every order that keeps the run
    indices, the data rates and the distances in theirs. Main statement: `read_inOrder`.

    The words are read from left to right, and what has been read so far is a draft, apart
    from a run index that may still wait to be checked. The invariant is that on every topic
    the draft and the words that are left together say what the arguments say
    (`Draft.Leads`). So a word never repeats what may be given once, a run index comes while
    one is expected, and at the end the draft says what the arguments say, which determines
    them.
-/

namespace SimSweep

/-! ## Section 1: Arguments from what they say -/

namespace Arguments

open Usage

/-- Arguments that say one thing more; run indices do not count. -/
def say (a : Arguments) : Saying → Arguments
  | .run _ => a
  | .quantity .dataRate x => { a with rates := a.rates ++ [x] }
  | .quantity .distance x => { a with distances := a.distances ++ [x] }
  | .preset p => { a with preset := some p }
  | .launcher s => { a with launcher := some s }
  | .scenario s => { a with scenario := some s }
  | .program s => { a with program := some s }
  | .switch .dryRun => { a with dryRun := true }
  | .switch .strict => { a with strict := true }
  | .switch .json => { a with json := true }
  | .switch .color => { a with color := true }
  | .switch .noColor => { a with noColor := true }
  | .switch .verbose => { a with verbose := true }
  | .switch .debug => { a with debug := true }

theorem sayings_say_of_ne (a : Arguments) {g : Saying} {t : Topic} (h : t ≠ g.topic) :
    (a.say g).sayings t = a.sayings t := by
  cases g with
  | run i => rfl
  | quantity q x =>
    cases q <;> cases t with
    | quantity q' => cases q' <;> first | rfl | exact absurd rfl h
    | _ => rfl
  | switch s =>
    cases t with
    | switch s' => cases s <;> cases s' <;> first | rfl | exact absurd rfl h
    | _ => cases s <;> rfl
  | _ => cases t <;> first | rfl | exact absurd rfl h

/-- Of what may be given once only nothing may have been said. -/
theorem sayings_say_self (a : Arguments) {g : Saying} (hrun : g.topic ≠ .run)
    (hnew : (∀ q, g.topic ≠ .quantity q) → a.sayings g.topic = []) :
    (a.say g).sayings g.topic = a.sayings g.topic ++ [g] := by
  cases g with
  | run i => exact absurd rfl hrun
  | quantity q x => cases q <;> exact List.map_append
  | switch s =>
    rw [hnew fun q hq => by cases hq]
    cases s <;> rfl
  | _ =>
    rw [hnew fun q hq => by cases hq]
    rfl

/-- Arguments are determined by what they say. -/
theorem eq_of_sayings_eq {a b : Arguments} (h : ∀ t, a.sayings t = b.sayings t) : a = b := by
  have hlist : ∀ {α : Type} {f : α → Saying} {xs ys : List α}, Function.Injective f →
      xs.map f = ys.map f → xs = ys :=
    fun hf heq => List.map_injective_iff.mpr hf heq
  have hoption : ∀ {α : Type} {f : α → Saying} {o o' : Option α}, Function.Injective f →
      o.toList.map f = o'.toList.map f → o = o' := by
    intro α f o o' hf heq
    simpa using congrArg List.head? (hlist hf heq)
  have hswitch : ∀ s, a.isSet s = b.isSet s := by
    intro s
    have hs := h (.switch s)
    unfold sayings at hs
    cases ha : a.isSet s <;> cases hb : b.isSet s <;> simp [ha, hb] at hs ⊢
  -- every topic tells one part of the arguments
  have hruns := h .run
  simp only [sayings, List.cons.injEq, Saying.run.injEq, and_true] at hruns
  have hrates := hlist (fun _ _ hx => (Saying.quantity.inj hx).2) (h (.quantity .dataRate))
  have hdistances := hlist (fun _ _ hx => (Saying.quantity.inj hx).2) (h (.quantity .distance))
  have hpreset := hoption (fun _ _ => Saying.preset.inj) (h .preset)
  have hlauncher := hoption (fun _ _ => Saying.launcher.inj) (h .launcher)
  have hscenario := hoption (fun _ _ => Saying.scenario.inj) (h .scenario)
  have hprogram := hoption (fun _ _ => Saying.program.inj) (h .program)
  cases a
  cases b
  rw [Arguments.mk.injEq]
  exact ⟨hruns.1, hruns.2, hrates, hdistances, hpreset, hlauncher, hscenario, hprogram,
    hswitch .dryRun, hswitch .strict, hswitch .json, hswitch .color, hswitch .noColor,
    hswitch .verbose, hswitch .debug⟩

end Arguments

namespace Usage

/-! ## Section 2: What a draft says -/

/-- What a draft says on a topic, in order. -/
def Draft.sayings (d : Draft) : Topic → List Saying
  | .run => (d.firstRun.toList ++ d.lastRun.toList).map .run
  | t => d.given.sayings t

theorem Draft.sayings_of_ne (d : Draft) {t : Topic} (h : t ≠ .run) :
    d.sayings t = d.given.sayings t := by
  cases t <;> first | rfl | exact absurd rfl h

/-- A draft says what another one says, and one thing more. -/
def Draft.Adds (d : Draft) (g : Saying) (d' : Draft) : Prop :=
  ∀ t, d'.sayings t = d.sayings t ++ [g].filter fun g => g.topic = t

theorem Draft.Adds.of_topic {d d' : Draft} {g : Saying}
    (hself : d'.sayings g.topic = d.sayings g.topic ++ [g])
    (hother : ∀ t, t ≠ g.topic → d'.sayings t = d.sayings t) : d.Adds g d' := by
  intro t
  by_cases ht : t = g.topic
  · simp [ht, hself]
  · simp [hother t ht, Ne.symm ht]

/-- A draft with what is still to be read says what the arguments say. -/
def Draft.Leads (d : Draft) (gs : List Saying) (a : Arguments) : Prop :=
  ∀ t, d.sayings t ++ (gs.filter fun g => g.topic = t) = a.sayings t

section Leads

variable {a : Arguments} {d d' : Draft} {g : Saying} {gs : List Saying}

theorem Draft.Leads.step (h : d.Leads (g :: gs) a) (hadds : d.Adds g d') : d'.Leads gs a := by
  intro t
  rw [hadds t, List.append_assoc, ← List.filter_append, List.singleton_append]
  exact h t

/-- Before the last thing that is said on a topic the draft has said less. -/
theorem Draft.Leads.length_lt (h : d.Leads (g :: gs) a) :
    (d.sayings g.topic).length < (a.sayings g.topic).length := by
  rw [← h g.topic, List.length_append, List.filter_cons, if_pos (by simp)]
  simp

/-- Where there is one thing to say it has not been said. -/
theorem Draft.Leads.sayings_eq_nil (h : d.Leads (g :: gs) a) (hrun : g.topic ≠ .run)
    (hquantity : ∀ q, g.topic ≠ .quantity q) : d.sayings g.topic = [] := by
  have hlt := h.length_lt
  have hle := Arguments.length_sayings_le (a := a) hrun hquantity
  exact List.length_eq_zero_iff.mp (by omega)

end Leads

/-! ## Section 3: Values -/

/-- A saying with a value that may be given. -/
def Saying.Readable : Saying → Prop
  | .quantity _ x => x.isFinite ∧ ¬ x.isNegative
  | _ => True

/-- A run index is read from its numeral. -/
theorem readRun_word (slot : Slot) (i : Int64) : readRun slot (Saying.run i).word = .ok i := by
  unfold readRun textOf Saying.word
  rw [text?_ofString]
  have hread : readInt 63 (String.ofList (runText i)).toList = .ok i.toInt := by
    rw [String.toList_ofList]
    exact readInt_intText i.le_toInt i.toInt_lt
  simp only [bind, Except.bind, hread, Int64.ofInt_toInt]

/-- A value that may be given is read from its text. -/
theorem readQuantity_text (q : Quantity) {x : Binary64} (hfinite : x.isFinite)
    (hnegative : ¬ x.isNegative) :
    readQuantity q.slot (Word.ofString x.text) = .ok x := by
  have hread : Binary64.read? (trim x.text.toList) = some x := by
    rw [Binary64.text, String.toList_ofList, trim_eq_self fun c hc =>
      Binary64.not_isBlank_of_isTextual (Binary64.isTextual_of_mem_write hc), Binary64.read?_write]
  show readText q x.text = .ok x
  rw [readText_eq, hread]
  simp only [if_neg (not_not.mpr hfinite), if_neg hnegative]

theorem readPreset_name (p : Preset) : readPreset (Word.ofString p.name) = .ok p := by
  unfold readPreset
  rw [text?_ofString]
  cases p <;> rfl

theorem Draft.setText_none (slot : Slot) (s : String) :
    setText slot (Word.ofString s) none = .ok (some s) := by
  unfold setText textOf
  rw [text?_ofString]
  rfl

section Say

variable {d : Draft} {g : Saying}

/-- The value of what may be said is put into the draft. -/
theorem Draft.setValue_say {slot : Slot} {value : String}
    (h : g.named? = some (.slot slot, some value)) (hreadable : g.Readable)
    (hnew : (∀ q, g.topic ≠ .quantity q) → d.given.sayings g.topic = []) :
    d.setValue slot (Word.ofString value) = .ok { d with given := d.given.say g } := by
  -- what has not been said is not set
  have hnone : ∀ {α : Type} {f : α → Saying} {o : Option α}, o.toList.map f = [] → o = none :=
    fun hnil => Option.toList_eq_nil_iff.mp (List.map_eq_nil_iff.mp hnil)
  cases g with
  | run i => cases h
  | switch s => cases h
  | quantity q x =>
    cases h
    have hread := readQuantity_text q hreadable.1 hreadable.2
    cases q with
    | dataRate =>
      simp only [setValue, Quantity.slot] at hread ⊢
      rw [hread]
      rfl
    | distance =>
      simp only [setValue, Quantity.slot] at hread ⊢
      rw [hread]
      rfl
  | preset p =>
    cases h
    have hunset := hnone (hnew fun q hq => by cases hq)
    simp only [setValue, hunset, readPreset_name]
    rfl
  | launcher s =>
    cases h
    have hunset := hnone (hnew fun q hq => by cases hq)
    simp only [setValue, hunset, setText_none]
    rfl
  | scenario s =>
    cases h
    have hunset := hnone (hnew fun q hq => by cases hq)
    simp only [setValue, hunset, setText_none]
    rfl
  | program s =>
    cases h
    have hunset := hnone (hnew fun q hq => by cases hq)
    simp only [setValue, hunset, setText_none]
    rfl

theorem Draft.setSwitch_say {s : Switch} (hnew : d.given.sayings (.switch s) = []) :
    d.setSwitch s = .ok { d with given := d.given.say (.switch s) } := by
  have hunset : d.isSet s = false := by
    have hset : (if d.isSet s then [Saying.switch s] else []) = [] := hnew
    simpa using hset
  unfold setSwitch
  rw [hunset, if_neg (by decide)]
  cases s <;> rfl

end Say

/-! ## Section 4: The state between two words -/

/-- The run indices that a draft still waits for. -/
inductive Draft.Awaits : Draft → List Slot → Prop where
  | both (a : Arguments) : Awaits { given := a } [.firstRun, .lastRun]
  | last (i : Int64) (a : Arguments) : Awaits { firstRun := some i, given := a } [.lastRun]
  | neither (i j : Int64) (a : Arguments) :
    Awaits { firstRun := some i, lastRun := some j, given := a } []

/-- Once the value that waits is checked, the words so far have made a draft. -/
def Progress.Reaches (p : Progress) (d : Draft) : Prop :=
  ∃ expected, d.Awaits expected ∧ p.settle = .ok { draft := d, expected }

/-- Only lone values change which run indices are expected. -/
theorem Draft.Awaits.given {d : Draft} {expected : List Slot} (h : d.Awaits expected)
    (a : Arguments) : { d with given := a }.Awaits expected := by
  cases h with
  | both => exact .both a
  | last i => exact .last i a
  | neither i j => exact .neither i j a

section Steps

variable {p : Progress} {d : Draft} {g : Saying}

theorem Progress.settle_eq_ok {expected : List Slot}
    (h : p.settle = .ok { draft := d, expected }) :
    p.expected = expected ∧ p.onlyValues = false ∧ ∀ slot, p.pending ≠ some (slot, none) := by
  obtain ⟨draft, pending, expected', onlyValues⟩ := p
  rcases pending with _ | ⟨slot, _ | w⟩
  · cases h
    simp
  · cases h
  · unfold settle at h
    simp only at h
    cases hset : draft.setValue slot w with
    | error f => rw [hset] at h; cases h
    | ok d' =>
      rw [hset] at h
      cases h
      simp

/-- The word of a value that has a name. -/
theorem Progress.Reaches.take_slot (h : p.Reaches d) {slot : Slot} {value : String}
    (hname : g.named? = some (.slot slot, some value)) (hreadable : g.Readable)
    (hnew : (∀ q, g.topic ≠ .quantity q) → d.given.sayings g.topic = []) :
    ∃ p', p.take g.word = .ok p' ∧ p'.Reaches { d with given := d.given.say g } := by
  obtain ⟨hnamed, hword⟩ := Saying.word_eq hname
  obtain ⟨expected, hawaits, hsettle⟩ := h
  obtain ⟨_, honly, _⟩ := settle_eq_ok hsettle
  refine ⟨{ draft := { d with given := d.given.say g }, expected }, ?_, expected,
    hawaits.given _, rfl⟩
  -- what waited is good, so only the value itself could be bad
  rw [hword, p.take_slot honly hnamed, hsettle]
  show Except.mapError Stop.fault (d.setValue slot (Word.ofString value) >>= _) = _
  rw [Draft.setValue_say hname hreadable hnew]
  rfl

/-- The word of a switch. -/
theorem Progress.Reaches.take_switch (h : p.Reaches d) {s : Switch}
    (hnew : d.given.sayings (.switch s) = []) :
    ∃ p', p.take (Saying.switch s).word = .ok p' ∧
      p'.Reaches { d with given := d.given.say (.switch s) } := by
  obtain ⟨expected, hawaits, hsettle⟩ := h
  obtain ⟨_, honly, _⟩ := settle_eq_ok hsettle
  refine ⟨{ draft := { d with given := d.given.say (.switch s) }, expected }, ?_, expected,
    hawaits.given _, rfl⟩
  show p.take ((Named.switch s).word none) = _
  rw [p.take_switch honly, hsettle]
  show Except.mapError Stop.fault (d.setSwitch s >>= _) = _
  rw [Draft.setSwitch_say hnew]
  rfl

/-- The word of a run index, while one is expected. -/
theorem Progress.Reaches.take_run (h : p.Reaches d) (i : Int64)
    (hroom : (d.sayings .run).length < 2) :
    ∃ p' d', p.take (Saying.run i).word = .ok p' ∧ p'.Reaches d' ∧ d.Adds (.run i) d' := by
  obtain ⟨expected, hawaits, hsettle⟩ := h
  obtain ⟨hexpected, honly, hpending⟩ := settle_eq_ok hsettle
  -- whether or not it starts with a dash it is taken as a lone value
  have htake : p.expected ≠ [] → p.take (Saying.run i).word = p.takeLone (Saying.run i).word := by
    intro hne
    have hvalue : p.takeValue (Saying.run i).word = p.takeLone (Saying.run i).word := by
      unfold takeValue
      split
      · next slot heq _ => exact absurd heq (hpending slot)
      · rfl
    unfold take
    rw [honly, if_neg (by decide)]
    rcases WordForm.of_run i with hform | ⟨letters, hform, hnumeric⟩
    · rw [hform]
      exact hvalue
    · rw [hform]
      show (if ¬ p.expected.isEmpty ∧ looksNumeric letters then _ else _) = _
      rw [if_pos ⟨by simpa using hne, hnumeric⟩]
      exact hvalue
  cases hawaits with
  | both a' =>
    refine ⟨⟨{ given := a' }, some (.firstRun, some (Saying.run i).word), [.lastRun], false⟩,
      { firstRun := some i, given := a' }, ?_, ⟨_, .last i a', ?_⟩, ?_⟩
    · rw [htake (by simp [hexpected]), takeLone, hexpected]
      simp only [hsettle]
      rfl
    · simp only [settle, Draft.setValue, readRun_word]
      rfl
    · exact .of_topic rfl fun t ht => by cases t <;> first | rfl | exact absurd rfl ht
  | last j a' =>
    refine ⟨⟨{ firstRun := some j, given := a' }, some (.lastRun, some (Saying.run i).word), [],
      false⟩, { firstRun := some j, lastRun := some i, given := a' }, ?_,
      ⟨_, .neither j i a', ?_⟩, ?_⟩
    · rw [htake (by simp [hexpected]), takeLone, hexpected]
      simp only [hsettle]
      rfl
    · simp only [settle, Draft.setValue, readRun_word]
      rfl
    · exact .of_topic rfl fun t ht => by cases t <;> first | rfl | exact absurd rfl ht
  | neither j k a' => exact absurd hroom (by simp [Draft.sayings])

/-- One word: what the draft and the words say together stays the same. -/
theorem Progress.Reaches.take (h : p.Reaches d) {gs : List Saying} {a : Arguments}
    (hleads : d.Leads (g :: gs) a) (hreadable : g.Readable) :
    ∃ p' d', p.take g.word = .ok p' ∧ p'.Reaches d' ∧ d'.Leads gs a := by
  by_cases hrun : g.topic = .run
  · -- a run index waits until the next word, the draft is the one that it will make
    obtain ⟨i, rfl⟩ : ∃ i, g = .run i := by
      cases g with
      | run i => exact ⟨i, rfl⟩
      | _ => cases hrun
    obtain ⟨p', d', htake, hreaches, hadds⟩ := h.take_run i hleads.length_lt
    exact ⟨p', d', htake, hreaches, hleads.step hadds⟩
  · -- anything else goes into the draft at once and leaves the run indices alone
    have hnew : (∀ q, g.topic ≠ .quantity q) → d.given.sayings g.topic = [] := by
      intro hquantity
      rw [← Draft.sayings_of_ne d hrun]
      exact hleads.sayings_eq_nil hrun hquantity
    have hadds : d.Adds g { d with given := d.given.say g } := by
      refine .of_topic ?_ fun t ht => ?_
      · rw [Draft.sayings_of_ne _ hrun, Draft.sayings_of_ne _ hrun]
        exact d.given.sayings_say_self hrun hnew
      · by_cases htrun : t = .run
        · rw [htrun]
          rfl
        · rw [Draft.sayings_of_ne _ htrun, Draft.sayings_of_ne _ htrun]
          exact d.given.sayings_say_of_ne ht
    have htake : ∃ p', p.take g.word = .ok p' ∧ p'.Reaches { d with given := d.given.say g } := by
      cases g with
      | run i => exact absurd rfl hrun
      | switch s => exact h.take_switch (hnew fun q hq => by cases hq)
      | _ => exact h.take_slot rfl hreadable hnew
    obtain ⟨p', htake, hreaches⟩ := htake
    exact ⟨p', _, htake, hreaches, hleads.step hadds⟩

/-- All words, one after the other. -/
theorem Progress.Reaches.foldlM (h : p.Reaches d) {gs : List Saying} {a : Arguments}
    (hleads : d.Leads gs a) (hreadable : ∀ g ∈ gs, g.Readable) :
    ∃ p' d', (gs.map Saying.word).foldlM Progress.take p = .ok p' ∧ p'.Reaches d' ∧
      d'.Leads [] a := by
  -- induction on what is left, for every state that leads to the arguments
  induction gs generalizing p d with
  | nil => exact ⟨p, d, rfl, h, hleads⟩
  | cons g rest ih =>
    obtain ⟨hg, hrest⟩ := List.forall_mem_cons.mp hreadable
    obtain ⟨p', d', htake, hreaches, hleads'⟩ := h.take hleads hg
    obtain ⟨p'', d'', hfold, hend⟩ := ih hreaches hleads' hrest
    refine ⟨p'', d'', ?_, hend⟩
    rw [List.map_cons, List.foldlM_cons, htake]
    exact hfold

end Steps

/-! ## Section 5: Words in order -/

/-- A draft that says what arguments say is complete. -/
theorem Draft.Leads.finish {d : Draft} {a : Arguments} (h : d.Leads [] a) : d.finish = .ok a := by
  have hsayings : ∀ t, d.sayings t = a.sayings t := by
    intro t
    simpa using h t
  -- both run indices have been said, in this order
  have hruns : d.firstRun = some a.firstRun ∧ d.lastRun = some a.lastRun := by
    have hrun := hsayings .run
    obtain ⟨firstRun, lastRun, given⟩ := d
    cases firstRun <;> cases lastRun <;> simp_all [Draft.sayings, Arguments.sayings]
  unfold Draft.finish
  rw [hruns.1, hruns.2]
  refine congrArg Except.ok (Arguments.eq_of_sayings_eq fun t => ?_)
  by_cases hrun : t = .run
  · rw [hrun]
    rfl
  · rw [← hsayings t, d.sayings_of_ne hrun]
    cases t <;> first | rfl | exact absurd rfl hrun

/-- The words of arguments are read back as the arguments, in every order that keeps the run
    indices, the data rates and the distances in theirs. -/
theorem read_inOrder {a : Arguments}
    (hvalues : ∀ q, ∀ x ∈ a.valuesOf q, x.isFinite ∧ ¬ x.isNegative) {words : List Word}
    (h : a.InOrder words) : read words = .ok a := by
  obtain ⟨gs, rfl, hgs⟩ := h.exists_sayings
  have hreadable : ∀ g ∈ gs, g.Readable := by
    intro g hg
    have hmem : g ∈ a.sayings g.topic := by
      rw [← hgs]
      simpa using hg
    cases g with
    | quantity q x =>
      obtain ⟨_, hx, heq⟩ := List.mem_map.mp hmem
      cases heq
      exact hvalues q x hx
    | _ => trivial
  have hstart : Progress.Reaches {} {} := ⟨loneSlots, .both _, rfl⟩
  have hleads : Draft.Leads {} gs a := by
    intro t
    rw [hgs]
    cases t with
    | quantity q => cases q <;> rfl
    | switch s => cases s <;> rfl
    | _ => rfl
  obtain ⟨p, d, hfold, ⟨expected, _, hsettle⟩, hend⟩ := hstart.foldlM hleads hreadable
  unfold read
  rw [hfold]
  show Except.mapError Stop.fault (p.settle >>= fun p => p.draft.finish) = .ok a
  rw [hsettle]
  show Except.mapError Stop.fault d.finish = .ok a
  rw [hend.finish]
  rfl

/-- A negative run index twice, texts that look like names and an empty one, a zero below zero,
    and a rate that is given twice. -/
theorem read_inOrder_unruly :
    let a : Arguments :=
      { firstRun := -7
        lastRun := -7
        rates := [.ofNat 80, .zero true, .ofNat 80]
        distances := [.ofRatio false 5 2]
        preset := some .full
        launcher := some ""
        scenario := some "--program=x"
        program := some "-h"
        strict := true
        color := true
        noColor := true }
    let words :=
      ["--no-color", "--rate=80", "--program=-h", "-7", "--launcher=", "--rate=-0", "--strict",
       "--scenario=--program=x", "--distance=2.5", "--rate=80", "-7", "--color",
       "--preset=full"].map Word.ofString
    a.InOrder words ∧ read words = .ok a := by
  intro a words
  have hvalues : ∀ q, ∀ x ∈ a.valuesOf q, x.isFinite ∧ ¬ x.isNegative := by
    intro q
    cases q <;> decide +kernel
  have horder : a.InOrder words :=
    { perm := by decide +kernel
      runs := by decide +kernel
      values := by
        intro q
        cases q <;> decide +kernel }
  exact ⟨horder, read_inOrder hvalues horder⟩

end Usage

end SimSweep
