import SimSweep.Proofs.Command.Line
import SimSweep.Proofs.Settings.Validation

/-! # Commands are uniquely decodable

    Main statement: valid settings never give one command for two purposes
    (`render_eq_iff`). Launcher and program may hold almost any text, so a command can
    contain anything that looks like one of its own parts; but read from its end it is
    unambiguous. The program holds no quote, so the last quote but one opens the template.
    No parameter holds a space, so the last four spaces before the closing quote are
    those in front of the parameters. And the scenario holds no space, so the last space
    before the template is that in front of the scenario.
-/

namespace SimSweep

/-- The last occurrence of a separator is a place that two texts agree on. -/
theorem append_cons_inj_of_notMem {α : Type} {a a' b b' : List α} {c : α} (hb : c ∉ b)
    (hb' : c ∉ b') (h : a ++ c :: b = a' ++ c :: b') : a = a' ∧ b = b' := by
  rcases List.append_eq_append_iff.mp h with ⟨m, ha, hm⟩ | ⟨m, ha, hm⟩
  · cases m with
    | nil => exact ⟨by rw [ha, List.append_nil], (List.cons.inj hm).2⟩
    | cons d m =>
      -- the other separator would stand behind the last one
      rw [List.cons_append] at hm
      refine absurd ?_ hb
      rw [(List.cons.inj hm).2]
      exact List.mem_append_right m List.mem_cons_self
  · cases m with
    | nil => exact ⟨by rw [ha, List.append_nil], (List.cons.inj hm).2.symm⟩
    | cons d m =>
      rw [List.cons_append] at hm
      refine absurd ?_ hb'
      rw [(List.cons.inj hm).2]
      exact List.mem_append_right m List.mem_cons_self

namespace Template

/-! ## Section 1: Parameters -/

theorem space_notMem_of_isTextual {cs : List Char} (h : ∀ c ∈ cs, Binary64.isTextual c) :
    ' ' ∉ cs := by
  intro hc
  cases h ' ' hc

/-- A last parameter can be taken off. -/
theorem parameter_inj (name : List Char) {front front' text text' : List Char}
    (hname : ' ' ∉ name) (ht : ∀ c ∈ text, Binary64.isTextual c)
    (ht' : ∀ c ∈ text', Binary64.isTextual c)
    (h : front ++ ' ' :: name ++ text = front' ++ ' ' :: name ++ text') :
    front = front' ∧ text = text' := by
  rw [List.append_assoc, List.append_assoc] at h
  have hword : ∀ word : List Char, (∀ c ∈ word, Binary64.isTextual c) → ' ' ∉ name ++ word := by
    intro word hw hc
    exact (List.mem_append.mp hc).elim hname (space_notMem_of_isTextual hw)
  obtain ⟨hfront, hrest⟩ := append_cons_inj_of_notMem (hword text ht) (hword text' ht') h
  exact ⟨hfront, List.append_cancel_left hrest⟩

/-- What stands in front of the parameters, and the point, can be told from both. -/
theorem parameters_inj {front front' : List Char} {p q : Point}
    (h : front ++ parameters p = front' ++ parameters q) : front = front' ∧ p = q := by
  have hnumber : ∀ x : Binary64, ∀ c ∈ x.write .plain, Binary64.isTextual c := by
    intro x c
    exact Binary64.isTextual_of_mem_write
  have hrun : ∀ r : Int64, ∀ c ∈ runText r, Binary64.isTextual c := by
    intro r c
    exact isTextual_of_mem_intText
  unfold parameters at h
  simp only [← List.append_assoc] at h
  -- from the last parameter to the first
  obtain ⟨h, hrate⟩ := parameter_inj "--intPck=".toList (by decide) (hnumber p.rate)
    (hnumber q.rate) h
  obtain ⟨h, hdistance⟩ := parameter_inj "--distance=".toList (by decide)
    (hnumber p.distance) (hnumber q.distance) h
  obtain ⟨h, _⟩ := parameter_inj "--RngSeed=".toList (by decide) (hrun p.seed)
    (hrun q.seed) h
  obtain ⟨h, hruns⟩ := parameter_inj "--RngRun=".toList (by decide) (hrun p.run)
    (hrun q.run) h
  refine ⟨h, ?_⟩
  obtain ⟨rate, distance, run⟩ := p
  obtain ⟨rate', distance', run'⟩ := q
  cases Binary64.write_injective hrate
  cases Binary64.write_injective hdistance
  cases runText_injective hruns
  rfl

/-! ## Section 2: Commands -/

theorem quote_notMem_program {t : Template} (ht : t.Placed) (p : Point) :
    '"' ∉ t.program.toList ++ parameters p := by
  intro h
  rcases List.mem_append.mp h with h | h
  · exact ht.program_unquoted h
  · exact notMem_parameters (by decide) (by decide) (by decide) h

theorem space_notMem_scenario {t : Template} (ht : t.Placed) : ' ' ∉ t.scenario.toList := by
  intro h
  exact ht.scenario_unbroken ' ' h (by decide)

/-- A command with the marks in view by which it is read from its end. -/
theorem toList_render_marks (t : Template) (p : Point) :
    (t.render p).toList =
      ((t.launcher.toList ++ " --run".toList ++ ' ' :: t.scenario.toList) ++
        " --command-template=".toList) ++ '"' :: (t.program.toList ++ parameters p) ++ ['"'] := by
  rw [toList_render]
  simp only [List.append_assoc, List.cons_append]
  rfl

/-- The command of a placed template decides template and point. -/
theorem render_inj {t t' : Template} (ht : t.Placed) (ht' : t'.Placed) {p q : Point}
    (h : t.render p = t'.render q) : t = t' ∧ p = q := by
  have hcommand := congrArg String.toList h
  rw [toList_render_marks, toList_render_marks] at hcommand
  obtain ⟨hfront, hword⟩ := append_cons_inj_of_notMem (quote_notMem_program ht p)
    (quote_notMem_program ht' q) (List.append_cancel_right hcommand)
  obtain ⟨hprogram, hpoint⟩ := parameters_inj hword
  obtain ⟨hlauncher, hscenario⟩ := append_cons_inj_of_notMem (space_notMem_scenario ht)
    (space_notMem_scenario ht') (List.append_cancel_right hfront)
  refine ⟨?_, hpoint⟩
  obtain ⟨launcher, scenario, program⟩ := t
  obtain ⟨launcher', scenario', program'⟩ := t'
  cases String.toList_inj.mp (List.append_cancel_right hlauncher)
  cases String.toList_inj.mp hscenario
  cases String.toList_inj.mp hprogram
  rfl

end Template

/-- Two points of valid settings have one command exactly if they are one point and the
    settings agree on launcher, scenario and program; numbers count as equal only with
    the same bits. So no two points of one sweep share their command. -/
theorem Settings.render_eq_iff {s t : Settings} (hs : s.validate = .ok ())
    (ht : t.validate = .ok ()) (p q : Point) :
    (s.render p = t.render q ↔
      s.launcher = t.launcher ∧ s.scenario = t.scenario ∧ s.program = t.program ∧
        p.run = q.run ∧ p.rate = q.rate ∧ p.distance = q.distance) ∧
    (p ≠ q → s.render p ≠ s.render q) := by
  have hs' := (validate_eq_ok_iff.mp hs).2.2
  have ht' := (validate_eq_ok_iff.mp ht).2.2
  refine ⟨⟨?_, ?_⟩, ?_⟩
  · intro h
    obtain ⟨htemplate, rfl⟩ := Template.render_inj hs' ht' h
    exact ⟨congrArg Template.launcher htemplate, congrArg Template.scenario htemplate,
      congrArg Template.program htemplate, rfl, rfl, rfl⟩
  · rintro ⟨hlauncher, hscenario, hprogram, hrun, hrate, hdistance⟩
    have hparameters : Template.parameters p = Template.parameters q := by
      unfold Template.parameters Point.seed
      rw [hrun, hrate, hdistance]
    unfold Template.render
    rw [hlauncher, hscenario, hprogram, hparameters]
  · intro hne h
    exact hne (Template.render_inj hs' hs' h).2

/-- Even zeros of different signs are told apart, in a command that is full of texts that
    look like parts of it. -/
theorem Settings.render_signed_zeros :
    let s : Settings := { launcher := "./waf --run x", program := "%s --RngRun=1 --intPck=8" }
    let p : Point := ⟨.ofNat 8, .zero false, 1⟩
    let q : Point := ⟨.ofNat 8, .zero true, 1⟩
    s.validate = .ok () ∧ p ≠ q ∧ s.render p ≠ s.render q := by
  intro s p q
  have hvalid : s.validate = .ok () := by decide +kernel
  have hne : p ≠ q := by decide +kernel
  exact ⟨hvalid, hne, (render_eq_iff hvalid hvalid p q).2 hne⟩

end SimSweep
