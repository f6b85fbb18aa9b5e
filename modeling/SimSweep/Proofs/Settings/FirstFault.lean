import Mathlib.Tactic.ByContra
import SimSweep.Proofs.Number.Value
import SimSweep.Proofs.Settings.Validation

/-! # The first fault of settings

    What settings have to meet is written down as a list of demands, each with the failure
    that is given if it is not met. The list is in the order in which validation looks at
    the settings: every rate from its being a number up to its range, then the distances,
    then the three texts. A computation answers a list of demands if it succeeds just when
    all of them are met and otherwise fails with the first that is not (`Answers`), and there
    is one rule for each way in which checks are put together.

    Main statement: validation answers the demands on the settings, so that what is wrong
    with a number is told before anything that is wrong with a text (`validate_by_demands`).
-/

namespace SimSweep

/-! ## Section 1: Demands -/

/-- Something that settings have to meet, and the failure if they do not. -/
structure Demand where
  met : Prop
  failure : Failure

/-- The failure of the first demand that is not met. -/
def FirstFault (ds : List Demand) (f : Failure) : Prop :=
  ∃ before d after, ds = before ++ d :: after ∧ (∀ b ∈ before, b.met) ∧ ¬ d.met ∧ f = d.failure

theorem not_firstFault_nil (f : Failure) : ¬ FirstFault [] f := by
  rintro ⟨before, d, after, hsplit, _⟩
  simp at hsplit

theorem firstFault_cons_iff {d : Demand} {ds : List Demand} {f : Failure} :
    FirstFault (d :: ds) f ↔ (¬ d.met ∧ f = d.failure) ∨ (d.met ∧ FirstFault ds f) := by
  constructor
  · rintro ⟨before, d', after, hsplit, hbefore, hunmet, rfl⟩
    cases before with
    | nil =>
      cases hsplit
      exact .inl ⟨hunmet, rfl⟩
    | cons b before =>
      cases hsplit
      obtain ⟨hd, hbefore⟩ := List.forall_mem_cons.mp hbefore
      exact .inr ⟨hd, before, d', after, rfl, hbefore, hunmet, rfl⟩
  · rintro (⟨hunmet, rfl⟩ | ⟨hd, before, d', after, rfl, hbefore, hunmet, rfl⟩)
    · exact ⟨[], d, ds, rfl, by simp, hunmet, rfl⟩
    · exact ⟨d :: before, d', after, rfl, List.forall_mem_cons.mpr ⟨hd, hbefore⟩, hunmet, rfl⟩

/-- The first fault of two lists is in the second only if the first list is met. -/
theorem firstFault_append_iff {ds es : List Demand} {f : Failure} :
    FirstFault (ds ++ es) f ↔ FirstFault ds f ∨ (∀ d ∈ ds, d.met) ∧ FirstFault es f := by
  induction ds with
  | nil =>
    simp [not_firstFault_nil]
  | cons d rest ih =>
    rw [List.cons_append, firstFault_cons_iff, firstFault_cons_iff, ih, List.forall_mem_cons]
    tauto

/-- There is a first fault unless everything is met. -/
theorem exists_firstFault_iff {ds : List Demand} :
    (∃ f, FirstFault ds f) ↔ ¬ ∀ d ∈ ds, d.met := by
  constructor
  · rintro ⟨f, before, d, after, rfl, _, hunmet, _⟩ hall
    exact hunmet (hall d (by simp))
  · induction ds with
    | nil =>
      intro h
      simp at h
    | cons d rest ih =>
      intro h
      by_cases hmet : d.met
      · obtain ⟨f, hf⟩ := ih fun hall => h (List.forall_mem_cons.mpr ⟨hmet, hall⟩)
        exact ⟨f, firstFault_cons_iff.mpr (.inr ⟨hmet, hf⟩)⟩
      · exact ⟨d.failure, firstFault_cons_iff.mpr (.inl ⟨hmet, rfl⟩)⟩

theorem FirstFault.exists_mem {ds : List Demand} {f : Failure} (h : FirstFault ds f) :
    ∃ d ∈ ds, f = d.failure := by
  obtain ⟨before, d, after, rfl, _, _, rfl⟩ := h
  exact ⟨d, by simp, rfl⟩

/-- A computation succeeds if all demands are met and else fails with the first fault. -/
structure Answers (ds : List Demand) (x : Except Failure Unit) : Prop where
  ok : x = .ok () ↔ ∀ d ∈ ds, d.met
  error : ∀ f, x = .error f ↔ FirstFault ds f

namespace Answers

variable {ds es : List Demand} {x y : Except Failure Unit}

theorem nil : Answers [] (.ok ()) where
  ok := by simp
  error f := iff_of_false (fun h => by cases h) (not_firstFault_nil f)

/-- A refusal in front of a computation that is reached only if there is no reason for it. -/
theorem refuse {c : Prop} [Decidable c] {d : Demand} (hc : c ↔ ¬ d.met)
    (h : d.met → Answers ds x) : Answers (d :: ds) (if c then .error d.failure else x) := by
  by_cases hmet : d.met
  · have hanswers := h hmet
    rw [if_neg (by simpa [hc] using hmet)]
    constructor
    · rw [hanswers.ok, List.forall_mem_cons]
      exact ⟨fun hall => ⟨hmet, hall⟩, fun hall => hall.2⟩
    · intro f
      rw [hanswers.error, firstFault_cons_iff]
      exact ⟨fun hf => .inr ⟨hmet, hf⟩, fun hf => hf.elim (fun hf => absurd hmet hf.1) And.right⟩
  · rw [if_pos (hc.mpr hmet)]
    constructor
    · rw [List.forall_mem_cons]
      exact ⟨fun heq => (by cases heq), fun hall => absurd hall.1 hmet⟩
    · intro f
      rw [firstFault_cons_iff, Except.error.injEq]
      exact ⟨fun hf => .inl ⟨hmet, hf.symm⟩,
        fun hf => hf.elim (fun hf => hf.2.symm) fun hf => absurd hf.1 hmet⟩

/-- Two computations one after the other. -/
theorem bind (h : Answers ds x) (h' : (∀ d ∈ ds, d.met) → Answers es y) :
    Answers (ds ++ es) (x >>= fun _ => y) := by
  cases x with
  | ok u =>
    have hmet := h.ok.mp rfl
    have hnone : ∀ f, ¬ FirstFault ds f := fun f hf => by cases (h.error f).mpr hf
    constructor
    · show y = .ok () ↔ _
      rw [(h' hmet).ok, List.forall_mem_append]
      exact ⟨fun hes => ⟨hmet, hes⟩, And.right⟩
    · intro f
      show y = .error f ↔ _
      rw [(h' hmet).error, firstFault_append_iff]
      exact ⟨fun hes => .inr ⟨hmet, hes⟩,
        fun hf => hf.elim (fun hf => absurd hf (hnone f)) And.right⟩
  | error g =>
    have hunmet : ¬ ∀ d ∈ ds, d.met := fun hall => by cases h.ok.mpr hall
    constructor
    · rw [List.forall_mem_append]
      exact ⟨fun heq => (by cases heq), fun hall => absurd hall.1 hunmet⟩
    · intro f
      rw [firstFault_append_iff, ← h.error]
      exact ⟨.inl, fun hf => hf.elim id fun hf => absurd hf.1 hunmet⟩

/-- The same check of one value after the other. -/
theorem forM {α : Type} {demands : α → List Demand} {check : α → Except Failure Unit}
    (h : ∀ a, Answers (demands a) (check a)) :
    ∀ xs : List α, Answers (xs.flatMap demands) (xs.forM check) := by
  intro xs
  induction xs with
  | nil => exact .nil
  | cons a rest ih =>
    rw [List.flatMap_cons]
    exact (h a).bind fun _ => ih

end Answers

namespace Settings

/-! ## Section 2: What is demanded of settings -/

/-- What is demanded of a quantity: it is finite, then it is not below zero. -/
def quantityDemands (q : Quantity) (x : Binary64) : List Demand :=
  [⟨∃ v, x.value? = some v, .validation (.notFinite q x)⟩,
   ⟨∀ v, x.value? = some v → 0 ≤ v, .validation (.negative q x)⟩]

/-- What is demanded of a rate: it is a quantity, and a whole number of 32 bits. -/
def rateDemands (x : Binary64) : List Demand :=
  quantityDemands .dataRate x ++
    [⟨∃ m : ℤ, x.value? = some (m : ℚ) ∧ m ≤ 4294967295, .validation (.notInterval x)⟩]

/-- What is demanded of the texts. -/
def templateDemands (t : Template) : List Demand :=
  [⟨∃ c ∈ t.launcher.toList, ¬ isBlank c, .config .blankLauncher⟩,
   ⟨∃ c ∈ t.scenario.toList, ¬ isBlank c, .config .blankScenario⟩,
   ⟨∀ c ∈ t.scenario.toList, ¬ isBlank c ∧ c ≠ '"', .config (.scenarioCharacter t.scenario)⟩,
   ⟨∃ c ∈ t.program.toList, ¬ isBlank c, .config .blankProgram⟩,
   ⟨'"' ∉ t.program.toList, .config (.quotedProgram t.program)⟩]

/-- What is demanded of the numbers, from left to right. -/
def numberDemands (s : Settings) : List Demand :=
  s.rates.flatMap rateDemands ++ s.distances.flatMap (quantityDemands .distance)

/-- Everything that is demanded of settings, in order. -/
def demands (s : Settings) : List Demand := s.numberDemands ++ templateDemands s.toTemplate

/-! ## Section 3: Validation -/

theorem answers_checkQuantity (q : Quantity) (x : Binary64) :
    Answers (quantityDemands q x) (checkQuantity q x) := by
  refine .refuse (by rw [Binary64.isFinite_iff_value]) ?_
  rintro ⟨v, hv⟩
  refine .refuse ?_ fun _ => .nil
  rw [Binary64.isNegative_iff_value hv]
  simp [hv]

/-- The interval is looked at once there is a value. -/
theorem answers_checkRate (x : Binary64) : Answers (rateDemands x) (checkRate x) := by
  refine (answers_checkQuantity .dataRate x).bind ?_
  intro hquantity
  obtain ⟨⟨v, hv⟩, -⟩ := List.forall_mem_cons.mp hquantity
  have hlimit : ((intervalLimit : ℕ) : ℚ) = ((4294967295 : ℤ) : ℚ) := by norm_num [intervalLimit]
  refine .refuse ?_ fun _ => .nil
  rw [Binary64.isWhole_iff_value hv, Binary64.exceeds_iff_value hv, hlimit]
  simp only [hv, Option.some.injEq]
  constructor
  · rintro (hwhole | hgreat) ⟨m, rfl, hm⟩
    · exact hwhole ⟨m, rfl⟩
    · exact absurd (Int.cast_le.mpr hm) (not_le.mpr hgreat)
  · intro h
    by_contra hneither
    rw [not_or, not_not, not_lt] at hneither
    obtain ⟨⟨m, rfl⟩, hm⟩ := hneither
    exact h ⟨m, rfl, Int.cast_le.mp hm⟩

theorem answers_checkTemplate (t : Template) :
    Answers (templateDemands t) (checkTemplate t) := by
  have hblank : ∀ s : String, isBlankText s ↔ ¬ ∃ c ∈ s.toList, ¬ isBlank c := by
    intro s
    simp [isBlankText]
  refine .refuse (hblank _) fun _ => ?_
  refine .refuse (hblank _) fun _ => ?_
  refine .refuse ?_ fun _ => ?_
  · simp [breaksWord, imp_iff_not_or]
  refine .refuse (hblank _) fun _ => ?_
  exact .refuse (by simp) fun _ => .nil

theorem answers_validate (s : Settings) : Answers s.demands s.validate := by
  unfold demands numberDemands validate
  rw [List.append_assoc]
  refine (Answers.forM answers_checkRate s.rates).bind fun _ => ?_
  refine (Answers.forM (answers_checkQuantity .distance) s.distances).bind fun _ => ?_
  exact answers_checkTemplate s.toTemplate

/-! ## Section 4: Good settings -/

/-- Numbers that a sweep can be made of. -/
structure HasGoodNumbers (s : Settings) : Prop where
  rates : ∀ x ∈ s.rates, ∃ n : ℕ, n ≤ 4294967295 ∧ x.value? = some (n : ℚ)
  distances : ∀ x ∈ s.distances, ∃ v : ℚ, 0 ≤ v ∧ x.value? = some v

/-- Texts that a command can be made of. -/
structure HasGoodTexts (s : Settings) : Prop where
  launcher : ∃ c ∈ s.launcher.toList, ¬ isBlank c
  scenario_nonempty : s.scenario ≠ ""
  scenario_bare : ∀ c ∈ s.scenario.toList, ¬ isBlank c ∧ c ≠ '"'
  program_nonblank : ∃ c ∈ s.program.toList, ¬ isBlank c
  program_unquoted : '"' ∉ s.program.toList

theorem quantityDemands_met_iff {q : Quantity} {x : Binary64} :
    (∀ d ∈ quantityDemands q x, d.met) ↔ ∃ v : ℚ, 0 ≤ v ∧ x.value? = some v := by
  simp only [quantityDemands, List.forall_mem_cons, List.not_mem_nil, false_imp_iff,
    implies_true, and_true]
  constructor
  · rintro ⟨⟨v, hv⟩, hnonneg⟩
    exact ⟨v, hnonneg v hv, hv⟩
  · rintro ⟨v, hnonneg, hv⟩
    refine ⟨⟨v, hv⟩, fun v' hv' => ?_⟩
    rwa [Option.some.inj (hv'.symm.trans hv)]

theorem rateDemands_met_iff {x : Binary64} :
    (∀ d ∈ rateDemands x, d.met) ↔ ∃ n : ℕ, n ≤ 4294967295 ∧ x.value? = some (n : ℚ) := by
  unfold rateDemands
  rw [List.forall_mem_append, quantityDemands_met_iff, List.forall_mem_singleton]
  constructor
  · rintro ⟨⟨v, hnonneg, hv⟩, m, hm, hle⟩
    obtain rfl := Option.some.inj (hm.symm.trans hv)
    -- a whole number that is not below zero
    obtain ⟨n, rfl⟩ := Int.eq_ofNat_of_zero_le (Int.cast_nonneg_iff.mp hnonneg)
    exact ⟨n, by omega, by simpa using hm⟩
  · rintro ⟨n, hle, hn⟩
    exact ⟨⟨n, Nat.cast_nonneg n, hn⟩, n, by simpa using hn, by omega⟩

theorem numberDemands_met_iff {s : Settings} :
    (∀ d ∈ s.numberDemands, d.met) ↔ s.HasGoodNumbers := by
  have hflat : ∀ (xs : List Binary64) (f : Binary64 → List Demand),
      (∀ d ∈ xs.flatMap f, d.met) ↔ ∀ x ∈ xs, ∀ d ∈ f x, d.met := by
    intro xs f
    simp only [List.mem_flatMap]
    exact ⟨fun h x hx d hd => h d ⟨x, hx, hd⟩, fun h d ⟨x, hx, hd⟩ => h x hx d hd⟩
  unfold numberDemands
  rw [List.forall_mem_append, hflat, hflat]
  simp only [rateDemands_met_iff, quantityDemands_met_iff]
  exact ⟨fun h => ⟨h.1, h.2⟩, fun h => ⟨h.rates, h.distances⟩⟩

theorem templateDemands_met_iff {s : Settings} :
    (∀ d ∈ templateDemands s.toTemplate, d.met) ↔ s.HasGoodTexts := by
  simp only [templateDemands, List.forall_mem_cons, List.not_mem_nil, false_imp_iff,
    implies_true, and_true]
  constructor
  · rintro ⟨hlauncher, ⟨c, hc, _⟩, hscenario, hprogram, hquote⟩
    refine ⟨hlauncher, ?_, hscenario, hprogram, hquote⟩
    intro hempty
    rw [hempty] at hc
    cases hc
  · rintro ⟨hlauncher, hempty, hscenario, hprogram, hquote⟩
    -- a scenario of which no character is blank is blank only if it is empty
    obtain ⟨c, hc⟩ := List.exists_mem_of_ne_nil s.scenario.toList (by simpa using hempty)
    exact ⟨hlauncher, ⟨c, hc, (hscenario c hc).1⟩, hscenario, hprogram, hquote⟩

/-- Numbers are faults of validation. -/
theorem exists_eq_validation {s : Settings} {f : Failure} (h : FirstFault s.numberDemands f) :
    ∃ fault, f = .validation fault := by
  obtain ⟨d, hd, rfl⟩ := h.exists_mem
  unfold numberDemands rateDemands quantityDemands at hd
  simp only [List.mem_append, List.mem_flatMap, List.mem_cons, List.not_mem_nil, or_false] at hd
  rcases hd with ⟨x, _, (rfl | rfl) | rfl⟩ | ⟨x, _, rfl | rfl⟩ <;> exact ⟨_, rfl⟩

/-- Texts are faults of the configuration. -/
theorem exists_eq_config {t : Template} {f : Failure} (h : FirstFault (templateDemands t) f) :
    ∃ fault, f = .config fault := by
  obtain ⟨d, hd, rfl⟩ := h.exists_mem
  simp only [templateDemands, List.mem_cons, List.not_mem_nil, or_false] at hd
  rcases hd with rfl | rfl | rfl | rfl | rfl <;> exact ⟨_, rfl⟩

/-- Validation succeeds exactly if the numbers and the texts are good, and otherwise it fails
    with the first fault. A number that is bad makes a fault of validation whatever the texts
    are, and only if all numbers are good is a text to blame, as a fault of the configuration. -/
theorem validate_by_demands (s : Settings) :
    (s.validate = .ok () ↔ s.HasGoodNumbers ∧ s.HasGoodTexts) ∧
    (∀ f, s.validate = .error f ↔ FirstFault s.demands f) ∧
    ((∃ fault, s.validate = .error (.validation fault)) ↔ ¬ s.HasGoodNumbers) ∧
    ((∃ fault, s.validate = .error (.config fault)) ↔ s.HasGoodNumbers ∧ ¬ s.HasGoodTexts) := by
  have hanswers := s.answers_validate
  have herror : ∀ f, s.validate = .error f ↔ FirstFault s.numberDemands f ∨
      s.HasGoodNumbers ∧ FirstFault (templateDemands s.toTemplate) f := by
    intro f
    rw [hanswers.error, demands, firstFault_append_iff, numberDemands_met_iff]
  refine ⟨?_, hanswers.error, ?_, ?_⟩
  · rw [hanswers.ok, demands, List.forall_mem_append, numberDemands_met_iff,
      templateDemands_met_iff]
  · simp only [herror]
    rw [← numberDemands_met_iff, ← exists_firstFault_iff]
    constructor
    · rintro ⟨fault, hnumbers | ⟨_, htexts⟩⟩
      · exact ⟨_, hnumbers⟩
      · obtain ⟨other, hother⟩ := exists_eq_config htexts
        cases hother
    · rintro ⟨f, hnumbers⟩
      obtain ⟨fault, rfl⟩ := exists_eq_validation hnumbers
      exact ⟨fault, .inl hnumbers⟩
  · simp only [herror]
    rw [← templateDemands_met_iff, ← exists_firstFault_iff]
    constructor
    · rintro ⟨fault, hnumbers | ⟨hgood, htexts⟩⟩
      · obtain ⟨other, hother⟩ := exists_eq_validation hnumbers
        cases hother
      · exact ⟨hgood, _, htexts⟩
    · rintro ⟨hgood, f, htexts⟩
      obtain ⟨fault, rfl⟩ := exists_eq_config htexts
      exact ⟨fault, .inr ⟨hgood, htexts⟩⟩

/-- Of four faults the second rate is told: the first rate is good, and the others come later. -/
example :
    let s : Settings :=
      { rates := [.ofNat 8, .nan, .infinite true], distances := [.nan], scenario := "" }
    s.validate = .error (.validation (.notFinite .dataRate .nan)) := by
  decide +kernel

end Settings

end SimSweep
