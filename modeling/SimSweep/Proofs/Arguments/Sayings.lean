import Mathlib.Data.List.Nodup
import Mathlib.Data.List.Perm.Basic
import SimSweep.Proofs.Command.Line
import SimSweep.Proofs.Settings.Listing
import SimSweep.Proofs.Text.Integer

/-! # What arguments say

    Arguments can be written as words: the two run indices as their numerals, every value and
    text behind its name and an equals sign, and every switch by its name. One such word is
    the word of a *saying*, and a saying has a *topic*: the sayings on one topic have an order
    that matters, and of the order between topics nothing is said.

    Main statements: different sayings have different words (`Saying.word_injective`), so if
    words are in an order that keeps the sayings of every topic in theirs, they are the words
    of sayings in such an order (`Arguments.InOrder.exists_sayings`).
-/

namespace SimSweep

/-! ## Section 1: Sayings -/

namespace Usage

/-- What a saying is about. -/
inductive Topic where
  | run
  | quantity (q : Quantity)
  | preset
  | launcher
  | scenario
  | program
  | switch (s : Switch)
  deriving DecidableEq

/-- All topics. -/
def topics : List Topic :=
  [.run, .quantity .dataRate, .quantity .distance, .preset, .launcher, .scenario, .program] ++
    switches.map .switch

theorem mem_topics (t : Topic) : t ∈ topics := by
  cases t with
  | quantity q => cases q <;> decide
  | switch s => cases s <;> decide
  | _ => decide

/-- One thing that arguments say. -/
inductive Saying where
  | run (i : Int64)
  | quantity (q : Quantity) (x : Binary64)
  | preset (p : Preset)
  | launcher (s : String)
  | scenario (s : String)
  | program (s : String)
  | switch (s : Switch)
  deriving DecidableEq

namespace Saying

/-- The topic of a saying. -/
def topic : Saying → Topic
  | .run _ => .run
  | .quantity q _ => .quantity q
  | .preset _ => .preset
  | .launcher _ => .launcher
  | .scenario _ => .scenario
  | .program _ => .program
  | .switch s => .switch s

/-- The name that introduces a saying, and the value behind it if there is one. -/
def named? : Saying → Option (Named × Option String)
  | .run _ => none
  | .quantity q x => some (.slot q.slot, some x.text)
  | .preset p => some (.slot .preset, some p.name)
  | .launcher s => some (.slot .launcher, some s)
  | .scenario s => some (.slot .scenario, some s)
  | .program s => some (.slot .program, some s)
  | .switch s => some (.switch s, none)

/-- The word of a saying. -/
def word : Saying → Word
  | .run i => Word.ofString (String.ofList (runText i))
  | .quantity q x => q.word x.text
  | .preset p => Word.ofString ("--preset=" ++ p.name)
  | .launcher s => Word.ofString ("--launcher=" ++ s)
  | .scenario s => Word.ofString ("--scenario=" ++ s)
  | .program s => Word.ofString ("--program=" ++ s)
  | .switch s => Word.ofString ("--" ++ s.name)

end Saying

/-! ## Section 2: Words apart -/

theorem ofString_injective {s t : String} (h : Word.ofString s = Word.ofString t) : s = t :=
  Option.some.inj ((text?_ofString s).symm.trans ((congrArg Word.text? h).trans (text?_ofString t)))

/-- A word tells its name and its value. -/
theorem Named.word_injective {a b : Named} (ha : a ∈ named) (hb : b ∈ named) {v w : Option String}
    (h : a.word v = b.word w) : a = b ∧ v = w := by
  have hform := congrArg WordForm.of h
  rw [WordForm.of_word ha, WordForm.of_word hb, WordForm.long.injEq] at hform
  constructor
  · have hnamed := congrArg ofName? (ofString_injective hform.1)
    rw [ofName?_name ha, ofName?_name hb] at hnamed
    exact Option.some.inj hnamed
  · exact Option.map_injective (fun _ _ => ofString_injective) hform.2

/-- Digits look like a number. -/
theorem looksNumeric_of_digits {ds : List Char} (h : ∀ c ∈ ds, c.isDigit) :
    looksNumeric (ds.map some) := by
  unfold looksNumeric
  simp only
  -- no digit changes what has been found so far
  refine congrArg Prod.fst
    (List.foldlRecOn (motive := (· = (true, false, false))) _ _ rfl ?_)
  rintro _ rfl ⟨c, i⟩ hm
  obtain ⟨d, hd, rfl⟩ := List.mem_map.mp (List.fst_mem_of_mem_zipIdx hm)
  have hdigit := h d hd
  split
  · next heq => cases heq; cases hdigit
  · next heq => cases heq; cases hdigit
  · next heq => cases heq; cases hdigit
  · next heq => cases heq; simp [hdigit]
  · next heq => cases heq

/-- A numeral has no name in front: it is one value, even if it starts with a dash. -/
theorem WordForm.of_run (i : Int64) :
    WordForm.of (Saying.run i).word = .plain ∨
      ∃ letters, WordForm.of (Saying.run i).word = .short letters ∧ looksNumeric letters := by
  obtain ⟨c, rest, hcons, hc⟩ := digitsOf_head_isDigit i.toInt.natAbs
  have hdash : c ≠ '-' := by rintro rfl; cases hc
  have hword : (Saying.run i).word = (intText i.toInt).map some := by
    show (String.ofList (intText i.toInt)).toList.map some = _
    rw [String.toList_ofList]
  rw [hword]
  unfold intText
  split
  · refine .inr ⟨(c :: rest).map some, ?_, ?_⟩
    · rw [hcons]
      simp [WordForm.of, hdash]
    · rw [← hcons]
      exact looksNumeric_of_digits fun d hd => Decimal.isDigit_of_mem_digitsOf hd
  · left
    rw [hcons]
    simp [WordForm.of, hdash]

namespace Saying

variable {g g' : Saying}

theorem word_eq {a : Named} {v : Option String} (h : g.named? = some (a, v)) :
    a ∈ named ∧ g.word = a.word v := by
  have hword : ∀ name : String, ∀ start, "--" ++ name ++ "=" = start →
      ∀ value, Word.ofString (start ++ value) = Word.ofString ("--" ++ name ++ "=" ++ value) := by
    rintro name start rfl value
    rfl
  cases g with
  | run i => cases h
  | quantity q x => cases h; exact quantity_word_eq q x.text
  | preset p => cases h; exact ⟨by decide, hword _ _ (by decide) _⟩
  | launcher s => cases h; exact ⟨by decide, hword _ _ (by decide) _⟩
  | scenario s => cases h; exact ⟨by decide, hword _ _ (by decide) _⟩
  | program s => cases h; exact ⟨by decide, hword _ _ (by decide) _⟩
  | switch s => cases h; exact ⟨by cases s <;> decide, rfl⟩

theorem exists_run_of_named?_eq_none (h : g.named? = none) : ∃ i, g = .run i := by
  cases g with
  | run i => exact ⟨i, rfl⟩
  | _ => cases h

end Saying

/-- The saying that a name introduces with a value. -/
def Named.saying? : Named → Option String → Option Saying
  | .slot .rate, some v => (Binary64.read? v.toList).map (.quantity .dataRate)
  | .slot .distance, some v => (Binary64.read? v.toList).map (.quantity .distance)
  | .slot .preset, some v => (Preset.ofName? v).map .preset
  | .slot .launcher, some v => some (.launcher v)
  | .slot .scenario, some v => some (.scenario v)
  | .slot .program, some v => some (.program v)
  | .switch s, none => some (.switch s)
  | _, _ => none

namespace Saying

variable {g g' : Saying}

theorem saying?_of_named? {a : Named} {v : Option String} (h : g.named? = some (a, v)) :
    a.saying? v = some g := by
  cases g with
  | run i => cases h
  | quantity q x =>
    cases h
    have hread : Binary64.read? x.text.toList = some x := by
      rw [Binary64.text, String.toList_ofList, Binary64.read?_write]
    cases q <;> simp [Named.saying?, Quantity.slot, hread]
  | preset p => cases h; cases p <;> decide
  | _ => cases h; rfl

/-- The word of a run index is the word of nothing else. -/
theorem word_run_ne {i : Int64} {a : Named} {v : Option String} (h : g.named? = some (a, v)) :
    (Saying.run i).word ≠ g.word := by
  obtain ⟨ha, hword⟩ := word_eq h
  intro heq
  rw [hword] at heq
  rcases WordForm.of_run i with hform | ⟨letters, hform, _⟩
  · rw [heq, WordForm.of_word ha] at hform
    cases hform
  · rw [heq, WordForm.of_word ha] at hform
    cases hform

/-- Different sayings have different words. -/
theorem word_injective : Function.Injective Saying.word := by
  intro g g' h
  cases hg : g.named? with
  | none =>
    obtain ⟨i, rfl⟩ := exists_run_of_named?_eq_none hg
    cases hg' : g'.named? with
    | none =>
      obtain ⟨j, rfl⟩ := exists_run_of_named?_eq_none hg'
      rw [runText_injective (String.ofList_injective (ofString_injective h))]
    | some _ => exact absurd h (word_run_ne hg')
  | some named =>
    cases hg' : g'.named? with
    | none =>
      obtain ⟨j, rfl⟩ := exists_run_of_named?_eq_none hg'
      exact absurd h.symm (word_run_ne hg)
    | some named' =>
      -- name and value are the same, and they make up the saying
      obtain ⟨ha, hword⟩ := word_eq hg
      obtain ⟨ha', hword'⟩ := word_eq hg'
      rw [hword, hword'] at h
      obtain ⟨hname, hvalue⟩ := Named.word_injective ha ha' h
      have hsaying := saying?_of_named? hg
      rw [hname, hvalue, saying?_of_named? hg'] at hsaying
      exact (Option.some.inj hsaying).symm

end Saying

end Usage

/-! ## Section 3: The words of arguments -/

namespace Arguments

open Usage

/-- Whether a switch is set. -/
def isSet (a : Arguments) (s : Switch) : Bool := ({ given := a } : Draft).isSet s

/-- What arguments say on a topic, in order. -/
def sayings (a : Arguments) : Topic → List Saying
  | .run => [.run a.firstRun, .run a.lastRun]
  | .quantity q => (a.valuesOf q).map (.quantity q)
  | .preset => a.preset.toList.map .preset
  | .launcher => a.launcher.toList.map .launcher
  | .scenario => a.scenario.toList.map .scenario
  | .program => a.program.toList.map .program
  | .switch s => if a.isSet s then [.switch s] else []

/-- The words of arguments, topic by topic. -/
def words (a : Arguments) : List Word := topics.flatMap fun t => (a.sayings t).map Saying.word

/-- The words of arguments in another order, which is free up to that of the two run indices,
    of the data rates and of the distances. -/
structure InOrder (a : Arguments) (words : List Word) : Prop where
  perm : words.Perm a.words
  runs : List.Sublist [(Saying.run a.firstRun).word, (Saying.run a.lastRun).word] words
  values : ∀ q, List.Sublist ((a.valuesOf q).map fun x => q.word x.text) words

variable {a : Arguments} {words : List Word}

theorem topic_of_mem_sayings {t : Topic} {g : Saying} (h : g ∈ a.sayings t) : g.topic = t := by
  cases t with
  | run =>
    simp only [sayings, List.mem_cons, List.not_mem_nil, or_false] at h
    rcases h with rfl | rfl <;> rfl
  | switch s =>
    simp only [sayings, List.mem_ite_nil_right, List.mem_singleton] at h
    rw [h.2]
    rfl
  | _ =>
    obtain ⟨_, _, rfl⟩ := List.mem_map.mp h
    rfl

theorem filter_sayings (a : Arguments) (t : Topic) :
    ((a.sayings t).filter fun g => g.topic = t) = a.sayings t :=
  List.filter_eq_self.mpr fun g hg => by simpa using topic_of_mem_sayings hg

/-- All that arguments say. -/
def allSayings (a : Arguments) : List Saying := topics.flatMap a.sayings

theorem words_eq (a : Arguments) : a.words = a.allSayings.map Saying.word :=
  (List.map_flatMap ..).symm

theorem filter_allSayings (a : Arguments) (t : Topic) :
    (a.allSayings.filter fun g => g.topic = t) = a.sayings t := by
  have hother : ∀ t', t' ≠ t → (a.sayings t').filter (fun g => g.topic = t) = [] := by
    intro t' hne
    rw [List.filter_eq_nil_iff]
    intro g hg
    simpa [topic_of_mem_sayings hg] using hne
  -- the topic comes once in the list of all topics
  obtain ⟨before, after, hsplit⟩ := List.append_of_mem (mem_topics t)
  have hnodup : (before ++ t :: after).Nodup := hsplit ▸ by decide
  have hnotMem : t ∉ before ∧ t ∉ after := by
    rw [List.nodup_middle, List.nodup_cons, List.mem_append, not_or] at hnodup
    exact hnodup.1
  have hnil : ∀ l : List Topic, t ∉ l →
      (l.flatMap fun t' => (a.sayings t').filter fun g => g.topic = t) = [] := by
    intro l hl
    rw [List.flatMap_eq_nil_iff]
    exact fun t' ht' => hother t' fun heq => hl (heq ▸ ht')
  unfold allSayings
  rw [List.filter_flatMap, hsplit, List.flatMap_append, List.flatMap_cons, hnil before hnotMem.1,
    hnil after hnotMem.2, filter_sayings, List.nil_append, List.append_nil]

/-- On most topics arguments have one thing to say at most. -/
theorem length_sayings_le {t : Topic} (hrun : t ≠ .run) (hquantity : ∀ q, t ≠ .quantity q) :
    (a.sayings t).length ≤ 1 := by
  have htoList : ∀ {α : Type} (o : Option α), o.toList.length ≤ 1 := by
    intro α o
    cases o <;> simp
  cases t with
  | run => exact absurd rfl hrun
  | quantity q => exact absurd rfl (hquantity q)
  | switch s =>
    by_cases hset : a.isSet s <;> simp [sayings, hset]
  | _ =>
    rw [sayings, List.length_map]
    exact htoList _

/-- What is said on any topic stands in the words in its order. -/
theorem InOrder.sublist (h : a.InOrder words) (t : Topic) :
    ((a.sayings t).map Saying.word).Sublist words := by
  by_cases hrun : t = .run
  · subst hrun
    exact h.runs
  by_cases hquantity : ∃ q, t = .quantity q
  · obtain ⟨q, rfl⟩ := hquantity
    show (((a.valuesOf q).map (Saying.quantity q)).map Saying.word).Sublist words
    rw [List.map_map]
    exact h.values q
  · -- of one thing there is only one order
    cases hsayings : a.sayings t with
    | nil => exact List.nil_sublist words
    | cons g rest =>
      have hlength : (a.sayings t).length ≤ 1 :=
        length_sayings_le hrun fun q hq => hquantity ⟨q, hq⟩
      have hrest : rest = [] := by
        rw [hsayings] at hlength
        simpa using hlength
      have hmem : g.word ∈ a.words := by
        rw [words_eq]
        refine List.mem_map_of_mem (List.mem_flatMap.mpr ⟨t, mem_topics t, ?_⟩)
        rw [hsayings]
        exact List.mem_cons_self
      rw [hrest]
      exact List.singleton_sublist.mpr (h.perm.mem_iff.mpr hmem)

/-- Words in such an order are those of sayings that keep their order on every topic. -/
theorem InOrder.exists_sayings (h : a.InOrder words) :
    ∃ gs : List Saying, words = gs.map Saying.word ∧
      ∀ t, (gs.filter fun g => g.topic = t) = a.sayings t := by
  have hwords := h.perm
  rw [words_eq] at hwords
  -- the words in another order are the words of the sayings in that order
  obtain ⟨gs, rfl, hperm⟩ :=
    (congrFun₂ (List.eq_map_comp_perm Saying.word) words a.allSayings).mpr hwords
  refine ⟨gs, rfl, fun t => ?_⟩
  obtain ⟨said, hsublist, hsaid⟩ := List.sublist_map_iff.mp (h.sublist t)
  rw [List.map_injective_iff.mpr Saying.word_injective hsaid.symm] at hsublist
  have hkept := hsublist.filter fun g => g.topic = t
  rw [filter_sayings] at hkept
  -- there are as many sayings on the topic in either order
  have hlength := (hperm.filter fun g => g.topic = t).length_eq
  rw [filter_allSayings] at hlength
  exact (hkept.eq_of_length hlength.symm).symm

end Arguments

end SimSweep
