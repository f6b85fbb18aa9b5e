import Mathlib.Data.List.TakeWhile
import SimSweep.Arguments.Reading

/-! # Values in front of the words

    A quantity may be given any number of values, each in a word of its own with the name
    in front. Main statement: values in front of some words are checked one after the
    other, and if all are good the words are read as if nothing stood in front of them,
    with the values before those that they give (`read_values_append`).

    Reading is a fold over the words, so it is enough that each step does the same with
    more values in the draft as without them. The steps are compared with `Mirrors`.
-/

namespace SimSweep

/-- The argument that a quantity is given with. -/
def Quantity.slot : Quantity → Usage.Slot
  | .dataRate => .rate
  | .distance => .distance

/-- The word that gives a value to a quantity. -/
def Quantity.word (q : Quantity) (value : String) : Word :=
  Word.ofString <| match q with
    | .dataRate => "--rate=" ++ value
    | .distance => "--distance=" ++ value

namespace Arguments

/-- The values that are given to a quantity. -/
def valuesOf (a : Arguments) : Quantity → List Binary64
  | .dataRate => a.rates
  | .distance => a.distances

/-- The arguments with some values of a quantity in front of those that they give. -/
def withFirst (q : Quantity) (xs : List Binary64) (a : Arguments) : Arguments :=
  match q with
  | .dataRate => { a with rates := xs ++ a.rates }
  | .distance => { a with distances := xs ++ a.distances }

@[simp] theorem withFirst_nil (q : Quantity) (a : Arguments) : a.withFirst q [] = a := by
  cases q <;> rfl

@[simp] theorem withFirst_append (q : Quantity) (xs ys : List Binary64) (a : Arguments) :
    (a.withFirst q ys).withFirst q xs = a.withFirst q (xs ++ ys) := by
  cases q <;> simp [withFirst]

end Arguments

namespace Usage

/-! ## Section 1: Words with names -/

/-- Two dashes and the name of an argument, and behind an equals sign its value if it has one. -/
def Named.word (a : Named) : Option String → Word
  | none => Word.ofString ("--" ++ a.name)
  | some value => Word.ofString ("--" ++ a.name ++ "=" ++ value)

@[simp] theorem text?_ofString (s : String) : (Word.ofString s).text? = some s := by
  have hmap : ∀ cs : List Char, (cs.map some).mapM id = some cs := by
    intro cs
    induction cs with
    | nil => rfl
    | cons c rest ih =>
      rw [List.map_cons, List.mapM_cons, ih]
      rfl
  unfold Word.text? Word.ofString
  rw [hmap, Option.map_some, String.ofList_toList]

/-- Two dashes introduce a name, which reaches up to the first equals sign. -/
theorem WordForm.of_named (name : List Char) (hne : name ≠ []) (h : '=' ∉ name)
    (value : List Char) :
    WordForm.of ((('-' :: '-' :: name) ++ '=' :: value).map some) =
      .long (name.map some) (some (value.map some)) := by
  obtain ⟨c, rest, rfl⟩ := List.exists_cons_of_ne_nil hne
  have htake : (((c :: rest) ++ '=' :: value).map some).takeWhile (· ≠ some '=') =
      (c :: rest).map some := by
    rw [List.map_append, List.takeWhile_append_of_pos]
    · simp
    · intro d hd
      obtain ⟨e, he, rfl⟩ := List.mem_map.mp hd
      simpa using fun heq : e = '=' => h (heq ▸ he)
  have hdrop : (((c :: rest) ++ '=' :: value).map some).drop ((c :: rest).map some).length =
      some '=' :: value.map some := by
    rw [List.map_append, List.drop_left]
    rfl
  simp only [List.cons_append, List.map_cons] at htake hdrop ⊢
  unfold WordForm.of
  simp only [htake, hdrop]

/-- A name without a value is all that is behind the dashes. -/
theorem WordForm.of_name (name : List Char) (hne : name ≠ []) (h : '=' ∉ name) :
    WordForm.of (('-' :: '-' :: name).map some) = .long (name.map some) none := by
  obtain ⟨c, rest, rfl⟩ := List.exists_cons_of_ne_nil hne
  have htake : ((c :: rest).map some).takeWhile (· ≠ some '=') = (c :: rest).map some := by
    rw [List.takeWhile_eq_self_iff]
    intro d hd
    obtain ⟨e, he, rfl⟩ := List.mem_map.mp hd
    simpa using fun heq : e = '=' => h (heq ▸ he)
  have hdrop : ((c :: rest).map some).drop ((c :: rest).map some).length = [] := List.drop_length
  simp only [List.map_cons] at htake hdrop ⊢
  unfold WordForm.of
  simp only [htake, hdrop]

theorem WordForm.of_word {a : Named} (ha : a ∈ named) (value : Option String) :
    WordForm.of (a.word value) = .long (Word.ofString a.name) (value.map Word.ofString) := by
  have hname : ∀ a ∈ named, a.name.toList ≠ [] ∧ '=' ∉ a.name.toList := by decide
  obtain ⟨hne, h⟩ := hname a ha
  cases value with
  | none =>
    have htext : ("--" ++ a.name).toList = '-' :: '-' :: a.name.toList := by simp
    show WordForm.of (("--" ++ a.name).toList.map some) = _
    rw [htext]
    exact WordForm.of_name a.name.toList hne h
  | some value =>
    have htext : ("--" ++ a.name ++ "=" ++ value).toList =
        '-' :: '-' :: a.name.toList ++ '=' :: value.toList := by simp
    show WordForm.of (("--" ++ a.name ++ "=" ++ value).toList.map some) = _
    rw [htext]
    exact WordForm.of_named a.name.toList hne h value.toList

theorem Named.ofName?_name {a : Named} (ha : a ∈ named) : ofName? a.name = some a := by
  have hall : ∀ a ∈ named, ofName? a.name = some a := by decide
  exact hall a ha

/-- A word with a name is taken by its name and its value. -/
theorem Progress.take_named (p : Progress) (h : p.onlyValues = false) {a : Named} (ha : a ∈ named)
    (value : Option String) :
    p.take (a.word value) = p.takeNamed (Word.ofString a.name) (value.map Word.ofString) := by
  unfold take
  rw [h, if_neg (by decide), WordForm.of_word ha]

/-- A name with a value: what waits is checked first, then the value. -/
theorem Progress.take_slot (p : Progress) (h : p.onlyValues = false) {slot : Slot}
    (hnamed : .slot slot ∈ named) (value : String) :
    p.take ((Named.slot slot).word (some value)) =
      Except.mapError .fault do
        let p ← p.settle
        return { p with draft := ← p.draft.setValue slot (Word.ofString value) } := by
  rw [p.take_named h hnamed]
  unfold takeNamed
  rw [text?_ofString, Option.bind_some, Named.ofName?_name hnamed]
  rfl

theorem Progress.take_switch (p : Progress) (h : p.onlyValues = false) (s : Switch) :
    p.take ((Named.switch s).word none) =
      Except.mapError .fault do
        let p ← p.settle
        return { p with draft := ← p.draft.setSwitch s } := by
  have hnamed : Named.switch s ∈ named := by cases s <;> decide
  rw [p.take_named h hnamed]
  unfold takeNamed
  rw [text?_ofString, Option.bind_some, Named.ofName?_name hnamed]
  rfl

theorem quantity_word_eq (q : Quantity) (s : String) :
    .slot q.slot ∈ named ∧ q.word s = (Named.slot q.slot).word (some s) := by
  cases q with
  | dataRate => exact ⟨by decide, congrArg (fun name => Word.ofString (name ++ s)) (by decide)⟩
  | distance => exact ⟨by decide, congrArg (fun name => Word.ofString (name ++ s)) (by decide)⟩

/-- The value that a text gives to a quantity. -/
def readText (q : Quantity) (s : String) : Except Fault Binary64 :=
  readQuantity q.slot (Word.ofString s)

/-! ## Section 2: Computations that mirror one another -/

/-- A computation gives what another one gives, put through a function, and fails with
    what it fails with. -/
def Mirrors {ε α β : Type} (g : α → β) (x' : Except ε β) (x : Except ε α) : Prop :=
  x' = x.map g

namespace Mirrors

variable {ε ε' α α' β β' : Type} {g : β → β'}

theorem ok (b : β) : Mirrors g (.ok (g b) : Except ε β') (.ok b) := rfl

theorem error (e : ε) : Mirrors g (.error e) (.error e) := rfl

theorem bind {h : α → α'} {x' : Except ε α'} {x : Except ε α} {f' : α' → Except ε β'}
    {f : α → Except ε β} (hx : Mirrors h x' x) (hf : ∀ a, Mirrors g (f' (h a)) (f a)) :
    Mirrors g (x' >>= f') (x >>= f) := by
  cases hx
  cases x with
  | error e => rfl
  | ok a => exact hf a

/-- Both may start with the same computation. -/
theorem after {x : Except ε α} {f' : α → Except ε β'} {f : α → Except ε β}
    (hf : ∀ a, Mirrors g (f' a) (f a)) : Mirrors g (x >>= f') (x >>= f) := by
  cases x with
  | error e => rfl
  | ok a => exact hf a

theorem ite {c : Prop} [Decidable c] {x' y' : Except ε β'} {x y : Except ε β}
    (hx : Mirrors g x' x) (hy : Mirrors g y' y) :
    Mirrors g (if c then x' else y') (if c then x else y) := by
  split
  · exact hx
  · exact hy

theorem mapError {h : ε → ε'} {x' : Except ε β'} {x : Except ε β} (hx : Mirrors g x' x) :
    Mirrors g (x'.mapError h) (x.mapError h) := by
  cases hx
  cases x <;> rfl

end Mirrors

/-! ## Section 3: More values in the draft -/

section First

variable (q : Quantity) (xs : List Binary64)

/-- A draft with values of a quantity in front of those that it has. -/
def Draft.withFirst (d : Draft) : Draft := { d with given := d.given.withFirst q xs }

/-- The same words read, with values in front of those of the draft. -/
def Progress.withFirst (p : Progress) : Progress := { p with draft := p.draft.withFirst q xs }

/-- Values that come later are put behind those that come first. -/
theorem mirrors_setValue (d : Draft) (slot : Slot) (w : Word) :
    Mirrors (Draft.withFirst q xs) ((d.withFirst q xs).setValue slot w) (d.setValue slot w) := by
  cases q <;> cases slot with
  | firstRun => exact .after fun _ => .ok _
  | lastRun => exact .after fun _ => .ok _
  | rate =>
    refine .after fun x => ?_
    simp [Mirrors, Draft.withFirst, Arguments.withFirst, pure, Except.pure, Except.map]
  | distance =>
    refine .after fun x => ?_
    simp [Mirrors, Draft.withFirst, Arguments.withFirst, pure, Except.pure, Except.map]
  | preset => exact .ite (.error _) (.after fun _ => .ok _)
  | launcher => exact .after fun _ => .ok _
  | scenario => exact .after fun _ => .ok _
  | program => exact .after fun _ => .ok _

theorem isSet_withFirst (d : Draft) (s : Switch) : (d.withFirst q xs).isSet s = d.isSet s := by
  cases q <;> cases s <;> rfl

theorem mirrors_setSwitch (d : Draft) (s : Switch) :
    Mirrors (Draft.withFirst q xs) ((d.withFirst q xs).setSwitch s) (d.setSwitch s) := by
  unfold Draft.setSwitch
  rw [isSet_withFirst]
  refine .ite (.error _) ?_
  cases q <;> cases s <;> exact .ok _

theorem mirrors_finish (d : Draft) :
    Mirrors (Arguments.withFirst q xs) (d.withFirst q xs).finish d.finish := by
  obtain ⟨firstRun, lastRun, given⟩ := d
  cases q <;> cases firstRun <;> cases lastRun <;> rfl

/-! ## Section 4: Steps with more values -/

variable (p : Progress)

theorem mirrors_settle :
    Mirrors (Progress.withFirst q xs) (p.withFirst q xs).settle p.settle := by
  obtain ⟨draft, pending, expected, onlyValues⟩ := p
  rcases pending with _ | ⟨slot, _ | w⟩
  · exact .ok _
  · exact .error _
  · exact .bind (mirrors_setValue q xs draft slot w) fun _ => .ok _

theorem mirrors_answer (r : Request) (long : Bool) :
    Mirrors (Progress.withFirst q xs) ((p.withFirst q xs).answer r long) (p.answer r long) := by
  refine .bind (mirrors_settle q xs p).mapError fun _ => ?_
  cases r <;> exact .error _

theorem mirrors_takeNamed (name : Word) (value : Option Word) :
    Mirrors (Progress.withFirst q xs) ((p.withFirst q xs).takeNamed name value)
      (p.takeNamed name value) := by
  unfold Progress.takeNamed
  split
  · exact .error _
  · exact mirrors_answer q xs p _ _
  · refine .mapError (.bind (mirrors_settle q xs p) fun p' => ?_)
    exact .bind (mirrors_setSwitch q xs p'.draft _) fun _ => .ok _
  · exact .mapError (.bind (mirrors_settle q xs p) fun _ => .ok _)
  · refine .mapError (.bind (mirrors_settle q xs p) fun p' => ?_)
    exact .bind (mirrors_setValue q xs p'.draft _ _) fun _ => .ok _
  · exact .error _

theorem mirrors_takeLone (w : Word) :
    Mirrors (Progress.withFirst q xs) ((p.withFirst q xs).takeLone w) (p.takeLone w) := by
  obtain ⟨draft, pending, expected, onlyValues⟩ := p
  cases expected with
  | nil => exact .error _
  | cons slot rest => exact .mapError (.bind (mirrors_settle q xs _) fun _ => .ok _)

theorem mirrors_takeValue (w : Word) :
    Mirrors (Progress.withFirst q xs) ((p.withFirst q xs).takeValue w) (p.takeValue w) := by
  obtain ⟨draft, pending, expected, onlyValues⟩ := p
  rcases pending with _ | ⟨slot, _ | v⟩
  · exact mirrors_takeLone q xs _ w
  · -- the argument that waits for its value takes it, unless only lone values are left
    cases onlyValues with
    | false => exact .ok _
    | true => exact mirrors_takeLone q xs _ w
  · exact mirrors_takeLone q xs _ w

/-- What a word means does not depend on the values that have been given. -/
theorem mirrors_take (w : Word) :
    Mirrors (Progress.withFirst q xs) ((p.withFirst q xs).take w) (p.take w) := by
  unfold Progress.take
  refine .ite (mirrors_takeValue q xs p w) ?_
  split
  · exact .ok _
  · exact mirrors_takeNamed q xs p _ _
  · exact mirrors_takeValue q xs p w
  · -- letters that look like a number may be a value
    refine .ite (mirrors_takeValue q xs p w) ?_
    split
    · split
      · exact mirrors_answer q xs p _ _
      · exact .error _
    · exact .error _

/-- Nor does what many words mean. Induction on the words, for any state before them. -/
theorem mirrors_foldlM_take (words : List Word) :
    Mirrors (Progress.withFirst q xs) (words.foldlM Progress.take (p.withFirst q xs))
      (words.foldlM Progress.take p) := by
  induction words generalizing p with
  | nil => exact .ok _
  | cons w rest ih =>
    rw [List.foldlM_cons, List.foldlM_cons]
    exact .bind (mirrors_take q xs p w) ih

end First

/-! ## Section 5: Values in front -/

/-- The first value of a quantity is the only one. -/
theorem setValue_slot (q : Quantity) (w : Word) :
    ({} : Draft).setValue q.slot w =
      (readQuantity q.slot w).map fun x => ({} : Draft).withFirst q [x] := by
  cases q with
  | dataRate =>
    show (readQuantity .rate w >>= fun _ => _) = (readQuantity .rate w).map _
    cases readQuantity .rate w <;> rfl
  | distance =>
    show (readQuantity .distance w >>= fun _ => _) = (readQuantity .distance w).map _
    cases readQuantity .distance w <;> rfl

/-- At the start a value of a quantity is checked and becomes the first one. -/
theorem take_word (q : Quantity) (s : String) :
    Progress.take {} (q.word s) =
      ((readText q s).mapError .fault).map fun x => ({} : Progress).withFirst q [x] := by
  obtain ⟨hnamed, hword⟩ := quantity_word_eq q s
  rw [hword, Progress.take_slot {} rfl hnamed]
  show Except.mapError Stop.fault (({} : Draft).setValue q.slot _ >>= fun _ => _) = _
  rw [setValue_slot]
  unfold readText
  cases readQuantity q.slot (Word.ofString s) <;> rfl

theorem read_word_cons (q : Quantity) (s : String) (words : List Word) :
    read (q.word s :: words) =
      ((readText q s).mapError .fault).bind fun x =>
        (read words).map (Arguments.withFirst q [x]) := by
  unfold read
  rw [List.foldlM_cons, take_word]
  cases readText q s with
  | error f => rfl
  | ok x =>
    have hfold := mirrors_foldlM_take q [x] {} words
    refine Mirrors.bind hfold fun p => ?_
    refine .mapError (.bind (mirrors_settle q [x] p) fun p' => ?_)
    exact mirrors_finish q [x] p'.draft

/-- Values in front of some words are checked in their order, and the first bad one is the
    fault. If all are good the words are read as they would be without them. -/
theorem read_values_append (q : Quantity) (ss : List String) (words : List Word) :
    read (ss.map q.word ++ words) =
      ((ss.mapM (readText q)).mapError .fault).bind fun xs =>
        (read words).map (Arguments.withFirst q xs) := by
  induction ss with
  | nil =>
    show read words = (read words).map (Arguments.withFirst q [])
    cases read words with
    | error e => rfl
    | ok a => exact congrArg Except.ok (a.withFirst_nil q).symm
  | cons s rest ih =>
    rw [List.map_cons, List.cons_append, read_word_cons, ih, List.mapM_cons]
    cases readText q s with
    | error f => rfl
    | ok x =>
      cases rest.mapM (readText q) with
      | error f => rfl
      | ok xs =>
        cases read words with
        | error e => rfl
        | ok a => exact congrArg Except.ok (a.withFirst_append q [x] xs)

end Usage

end SimSweep
