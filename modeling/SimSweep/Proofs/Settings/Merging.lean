import Mathlib.Data.List.Basic
import SimSweep.Proofs.Settings.Layers

/-! # Environments merged one after the other

    A merge takes what an environment says and leaves everything else as it was. So merging
    two environments one after the other comes to the same as merging the second over the
    first, if no list is in the way, and merging one environment again changes nothing. A
    merge that ends early has replaced the data rates at most, so an environment that
    replaces them too starts from the half-merged settings as it would have from the old.

    Main statement: merges compose, and a failed one can be made up for (`merge_composes`).
-/

namespace SimSweep

/-- What one environment says, and where it says nothing, what another one says. -/
def Environment.over (upper lower : Environment) : Environment :=
  fun name => (upper name).or (lower name)

namespace Settings

/-! ## Section 1: The three ways through a merge -/

/-- The settings with the data rates of an environment. -/
def mergeRates (env : Environment) (s : Settings) : Settings :=
  { s with rates := (listIn env "SWEEP_DATA_RATES").getD s.rates }

/-- The settings with all that an environment says. -/
def mergeAll (env : Environment) (s : Settings) : Settings :=
  mergeTexts env
    { mergeRates env s with distances := (listIn env "SWEEP_DISTANCES").getD s.distances }

section Ways

variable {env : Environment} {f : Failure} (s : Settings)

theorem merge_of_readable (hrates : Readable env "SWEEP_DATA_RATES")
    (hdistances : Readable env "SWEEP_DISTANCES") :
    s.merge env = (mergeAll env s, .ok ()) := by
  simp only [merge, listOr_of_readable (v := .rates) hrates,
    listOr_of_readable (v := .distances) hdistances]
  rfl

theorem merge_of_unreadable_rates (hrates : Unreadable env "SWEEP_DATA_RATES" f) :
    s.merge env = (s, .error f) := by
  simp only [merge, listOr_of_unreadable (v := .rates) hrates]

theorem merge_of_unreadable_distances (hrates : Readable env "SWEEP_DATA_RATES")
    (hdistances : Unreadable env "SWEEP_DISTANCES" f) :
    s.merge env = (mergeRates env s, .error f) := by
  simp only [merge, listOr_of_readable (v := .rates) hrates,
    listOr_of_unreadable (v := .distances) hdistances]
  rfl

/-- The ways in the order in which they part; which of them is taken is up to the
    environment alone. -/
theorem readable_cases (env : Environment) :
    (Readable env "SWEEP_DATA_RATES" ∧ Readable env "SWEEP_DISTANCES") ∨
    (∃ f, Unreadable env "SWEEP_DATA_RATES" f) ∨
    (Readable env "SWEEP_DATA_RATES" ∧ ∃ f, Unreadable env "SWEEP_DISTANCES" f) := by
  rcases readable_or_unreadable env "SWEEP_DATA_RATES" with hrates | hrates
  · exact (readable_or_unreadable env "SWEEP_DISTANCES").imp (⟨hrates, ·⟩) fun h => .inr ⟨hrates, h⟩
  · exact .inr (.inl hrates)

variable {s} {s' : Settings}

/-- A complete merge has read both lists. -/
theorem readable_of_merge (h : s.merge env = (s', .ok ())) :
    Readable env "SWEEP_DATA_RATES" ∧ Readable env "SWEEP_DISTANCES" ∧ s' = mergeAll env s := by
  rcases readable_cases env with ⟨hrates, hdistances⟩ | ⟨f, hrates⟩ | ⟨hrates, f, hdistances⟩
  · rw [merge_of_readable s hrates hdistances] at h
    cases h
    exact ⟨hrates, hdistances, rfl⟩
  · rw [merge_of_unreadable_rates s hrates] at h
    cases h
  · rw [merge_of_unreadable_distances s hrates hdistances] at h
    cases h

/-- A failed merge has replaced the data rates at most, by what the environment says. -/
theorem merge_eq_error (h : s.merge env = (s', .error f)) :
    s' = s ∨ Readable env "SWEEP_DATA_RATES" ∧ s' = mergeRates env s := by
  rcases readable_cases env with ⟨hrates, hdistances⟩ | ⟨f, hrates⟩ | ⟨hrates, f, hdistances⟩
  · rw [merge_of_readable s hrates hdistances] at h
    cases h
  · rw [merge_of_unreadable_rates s hrates] at h
    cases h
    exact .inl rfl
  · rw [merge_of_unreadable_distances s hrates hdistances] at h
    cases h
    exact .inr ⟨hrates, rfl⟩

end Ways

/-! ## Section 2: One environment over another -/

section Over

variable {first second : Environment} {name : String}

/-- A list that can be read hides the one below it. -/
theorem listIn_over (hsecond : Readable second name) :
    listIn (second.over first) name = (listIn second name).or (listIn first name) := by
  unfold listIn Environment.over
  cases hset : second name with
  | none => rfl
  | some text =>
    obtain ⟨xs, hread⟩ := hsecond text hset
    simp [hread, Except.toOption]

theorem Readable.over (hfirst : Readable first name) (hsecond : Readable second name) :
    Readable (second.over first) name := by
  intro text hset
  rcases Option.or_eq_some_iff.mp hset with hset | ⟨_, hset⟩
  · exact hsecond text hset
  · exact hfirst text hset

theorem textOr_over (v : Variable) (text : String) :
    textOr (second.over first) v text = textOr second v (textOr first v text) := by
  simp only [textOr_eq, Environment.over]
  cases second v.name <;> simp

/-- What two environments say one after the other is what the second over the first says. -/
theorem mergeAll_over (hrates : Readable second "SWEEP_DATA_RATES")
    (hdistances : Readable second "SWEEP_DISTANCES") (s : Settings) :
    mergeAll (second.over first) s = mergeAll second (mergeAll first s) := by
  simp only [mergeAll, mergeRates, mergeTexts, listIn_over hrates, listIn_over hdistances,
    textOr_over, Option.getD_or]

theorem mergeRates_mergeRates (env : Environment) (s : Settings) :
    mergeRates env (mergeRates env s) = mergeRates env s := by
  unfold mergeRates
  cases listIn env "SWEEP_DATA_RATES" <;> rfl

/-- Data rates that are replaced again do not matter. -/
theorem mergeAll_mergeRates (hset : (second "SWEEP_DATA_RATES").isSome)
    (hrates : Readable second "SWEEP_DATA_RATES") (s : Settings) :
    mergeAll second (mergeRates first s) = mergeAll second s := by
  obtain ⟨text, htext⟩ := Option.isSome_iff_exists.mp hset
  obtain ⟨xs, hread⟩ := hrates text htext
  have hlist : listIn second "SWEEP_DATA_RATES" = some xs := by
    unfold listIn
    rw [htext, Option.bind_some, hread]
    rfl
  simp only [mergeAll, mergeRates, hlist, Option.getD_some]

@[simp] theorem over_self (env : Environment) : env.over env = env := by
  funext name
  exact Option.or_self

end Over

/-! ## Section 3: Merges that compose -/

section Compose

variable {first second : Environment} {s s₁ s₂ : Settings}

theorem merge_over (h₁ : s.merge first = (s₁, .ok ())) (h₂ : s₁.merge second = (s₂, .ok ())) :
    s.merge (second.over first) = (s₂, .ok ()) := by
  obtain ⟨hrates₁, hdistances₁, rfl⟩ := readable_of_merge h₁
  obtain ⟨hrates₂, hdistances₂, rfl⟩ := readable_of_merge h₂
  rw [merge_of_readable s (hrates₁.over hrates₂) (hdistances₁.over hdistances₂),
    mergeAll_over hrates₂ hdistances₂]

/-- Merging an environment again gives the same settings and the same result. -/
theorem merge_merge (env : Environment) (s : Settings) :
    (s.merge env).1.merge env = s.merge env := by
  rcases readable_cases env with ⟨hrates, hdistances⟩ | ⟨f, hrates⟩ | ⟨hrates, f, hdistances⟩
  · have hagain : mergeAll (env.over env) s = mergeAll env (mergeAll env s) :=
      mergeAll_over hrates hdistances s
    rw [over_self] at hagain
    simp only [merge_of_readable _ hrates hdistances, ← hagain]
  · simp only [merge_of_unreadable_rates _ hrates]
  · simp only [merge_of_unreadable_distances _ hrates hdistances, mergeRates_mergeRates]

/-- The half-merged settings are as good as the old ones to an environment that replaces the
    data rates if the failed merge did. -/
theorem merge_after_failure {f : Failure} (h₁ : s.merge first = (s₁, .error f))
    (hset : (first "SWEEP_DATA_RATES").isSome → (second "SWEEP_DATA_RATES").isSome)
    (h₂ : s.merge second = (s₂, .ok ())) : s₁.merge second = (s₂, .ok ()) := by
  obtain ⟨hrates, hdistances, rfl⟩ := readable_of_merge h₂
  rw [merge_of_readable s₁ hrates hdistances]
  rcases merge_eq_error h₁ with rfl | ⟨_, rfl⟩
  · rfl
  · cases hfirst : first "SWEEP_DATA_RATES" with
    | some text => rw [mergeAll_mergeRates (hset (by rw [hfirst]; rfl)) hrates]
    | none =>
      -- the first environment has no list to replace the data rates with
      have hkept : mergeRates first s = s := by
        unfold mergeRates listIn
        rw [hfirst]
        rfl
      rw [hkept]

end Compose

/-- Two complete merges, one after the other, come to the merge of the second environment over
    the first, and merging an environment twice is merging it once, whatever comes of it. A
    merge that fails has changed the data rates at most, and any environment that sets them if
    the failed one did, and that could be merged before, makes the same settings afterwards. -/
theorem merge_composes (s : Settings) (first : Environment) :
    (∀ second s₁ s₂, s.merge first = (s₁, .ok ()) → s₁.merge second = (s₂, .ok ()) →
      s.merge (second.over first) = (s₂, .ok ())) ∧
    (s.merge first).1.merge first = s.merge first ∧
    (∀ s₁ f, s.merge first = (s₁, .error f) →
      s₁ = { s with rates := s₁.rates } ∧
      ∀ second s₂,
        ((first "SWEEP_DATA_RATES").isSome → (second "SWEEP_DATA_RATES").isSome) →
        s.merge second = (s₂, .ok ()) → s₁.merge second = (s₂, .ok ())) := by
  refine ⟨fun second s₁ s₂ => merge_over, merge_merge first s, fun s₁ f h₁ => ⟨?_, ?_⟩⟩
  · rcases merge_eq_error h₁ with rfl | ⟨_, rfl⟩ <;> rfl
  · intro second s₂ hset h₂
    exact merge_after_failure h₁ hset h₂

/-- A list that becomes empty, a text that is replaced twice, and a merge that stops behind the
    data rates and is made up for. -/
theorem merge_composes_partly :
    let s : Settings := {}
    let first : Environment := fun name =>
      [("SWEEP_DATA_RATES", "800, 80"), ("SWEEP_LAUNCHER", " ./ns3 ")].lookup name
    let second : Environment := fun name =>
      [("SWEEP_DISTANCES", ","), ("SWEEP_LAUNCHER", "./waf -v")].lookup name
    let broken : Environment := fun name =>
      [("SWEEP_DATA_RATES", "1"), ("SWEEP_DISTANCES", "10,ten"), ("SWEEP_PROGRAM", "x")].lookup name
    let one : Settings := { rates := [.ofNat 800, .ofNat 80], launcher := "./ns3" }
    let both : Settings := { one with distances := [], launcher := "./waf -v" }
    let half : Settings := { rates := [.ofNat 1] }
    (s.merge first = (one, .ok ()) ∧ one.merge second = (both, .ok ()) ∧
      s.merge (second.over first) = (both, .ok ())) ∧
    ∃ f, s.merge broken = (half, .error f) ∧ half.merge first = (one, .ok ()) := by
  intro s first second broken one both half
  have hfirst : s.merge first = (one, .ok ()) := by decide +kernel
  have hsecond : one.merge second = (both, .ok ()) := by decide +kernel
  have hbroken : s.merge broken =
      (half, .error (.config (.badListEntry "SWEEP_DISTANCES" "ten"))) := by decide +kernel
  refine ⟨⟨hfirst, hsecond, (merge_composes s first).1 _ _ _ hfirst hsecond⟩, _, hbroken, ?_⟩
  exact ((merge_composes s broken).2.2 _ _ hbroken).2 first one (by decide) hfirst

end Settings

end SimSweep
