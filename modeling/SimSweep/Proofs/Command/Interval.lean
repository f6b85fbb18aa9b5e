import SimSweep.Arguments.Reading
import SimSweep.Proofs.Command.Line
import SimSweep.Proofs.Number.Whole
import SimSweep.Proofs.Plan.Members
import SimSweep.Proofs.Settings.Layers
import SimSweep.Proofs.Settings.Validation

/-! # The interval between packets

    The last parameter of a command is set from a data rate, and the simulator holds it
    in 32 bits without a sign. Main statement: what accepted settings make a command
    write there is the numeral of such a number, except for the rate negative zero, which
    passes every check of a rate and keeps its sign (`render_interval_iff`).
-/

namespace SimSweep

/-- A numeral that an unsigned parameter of 32 bits can be set from: the digits of a
    number in its range, with no sign, point or exponent. -/
def IsIntervalNumeral (cs : List Char) : Prop :=
  ∃ n, n ≤ intervalLimit ∧ cs = Decimal.digitsOf n

/-- A text that starts with a minus is no such numeral. -/
theorem not_isIntervalNumeral_minus {cs : List Char} : ¬ IsIntervalNumeral ('-' :: cs) := by
  rintro ⟨n, _, hdigits⟩
  exact minus_notMem_digitsOf n (hdigits ▸ List.mem_cons_self)

/-! ## Section 1: Rates that are accepted -/

/-- An accepted rate is negative zero or a whole number of 32 bits. -/
theorem rate_of_checkRate {x : Binary64} (h : Settings.checkRate x = .ok ()) :
    x = .zero true ∨
      ∃ n k, n ≤ intervalLimit ∧ x = .finite false k ∧ Binary64.steps k = n * Binary64.scale := by
  obtain ⟨⟨hfinite, hsign⟩, hwhole, hlimit⟩ := Settings.checkRate_eq_ok_iff.mp h
  cases x with
  | nan => cases hfinite
  | infinite negative => cases hfinite
  | finite negative k =>
    cases negative with
    | true =>
      -- a minus is let through in front of zero only
      left
      have hk : k.val = 0 := by simpa [Binary64.isNegative] using hsign
      rw [Binary64.zero, show k = ⟨0, by decide⟩ from Fin.ext hk]
    | false =>
      right
      have hmod : Binary64.steps k.val % Binary64.scale = 0 := by
        simpa [Binary64.isWhole] using hwhole
      have hle : Binary64.steps k.val ≤ intervalLimit * Binary64.scale := by
        simpa [Binary64.exceeds] using hlimit
      obtain ⟨n, hn⟩ := Nat.dvd_of_mod_eq_zero hmod
      rw [Nat.mul_comm] at hn
      rw [hn] at hle
      exact ⟨n, k, Nat.le_of_mul_le_mul_right hle Binary64.scale_pos, rfl, hn⟩

theorem intervalLimit_lt : intervalLimit < binade := by decide

theorem write_zero_true : (Binary64.zero true).write .plain = ['-', '0'] := by decide +kernel

/-- The text of an accepted rate is an interval, unless the rate is negative zero. -/
theorem isIntervalNumeral_write_iff {x : Binary64} (h : Settings.checkRate x = .ok ()) :
    IsIntervalNumeral (x.write .plain) ↔ x ≠ .zero true := by
  rcases rate_of_checkRate h with rfl | ⟨n, k, hn, rfl, hk⟩
  · rw [write_zero_true]
    exact ⟨fun hnumeral => absurd hnumeral not_isIntervalNumeral_minus, fun hne => absurd rfl hne⟩
  · refine ⟨fun _ => by simp [Binary64.zero], fun _ => ⟨n, hn, ?_⟩⟩
    exact Binary64.magnitudeText_whole k.isLt (Nat.lt_of_le_of_lt hn intervalLimit_lt) hk

/-! ## Section 2: The end of a command -/

/-- A command ends in the rate of its point, between the name of the parameter and the
    closing quote. -/
theorem Template.exists_render_eq (t : Template) (p : Point) :
    ∃ front, (t.render p).toList =
      front ++ "--intPck=".toList ++ (p.rate.write .plain ++ ['"']) := by
  have hname : " --intPck=".toList = [' '] ++ "--intPck=".toList := rfl
  unfold render parameters
  simp only [String.toList_ofList, hname, ← List.append_assoc]
  exact ⟨_, rfl⟩

/-- Neither an equals sign nor a quote is part of a number. -/
theorem notMem_write (x : Binary64) : '=' ∉ x.write .plain ∧ '"' ∉ x.write .plain := by
  constructor
  · intro h
    cases Binary64.isTextual_of_mem_write h
  · intro h
    cases Binary64.isTextual_of_mem_write h

/-- A rate in a plan that arguments and environment make up has passed the check of rates. -/
theorem checkRate_of_mem_points {a : Arguments} {env : Environment} {colors : Bool} {s : Settings}
    (h : Settings.ofArguments a env colors = .ok s) {p : Point} (hp : p ∈ s.points) :
    Settings.checkRate p.rate = .ok () := by
  obtain ⟨rfl, _, _, _, hvalid⟩ := Settings.ofArguments_eq_ok_iff.mp h
  exact (Settings.validate_eq_ok_iff.mp hvalid).1 p.rate (Plan.mem_points_iff.mp hp).1

/-- What every command of accepted settings writes for the interval, from the last equals
    sign up to the closing quote, is the numeral of a number of 32 bits, unless the rate
    of the point is negative zero; then a minus stands in front of the digit. -/
theorem Settings.render_interval_iff {a : Arguments} {env : Environment} {colors : Bool}
    {s : Settings} (h : ofArguments a env colors = .ok s) {p : Point} (hp : p ∈ s.points) :
    ∃ front text, (s.render p).toList = front ++ "--intPck=".toList ++ (text ++ ['"']) ∧
      '=' ∉ text ∧ '"' ∉ text ∧ (IsIntervalNumeral text ↔ p.rate ≠ .zero true) ∧
      (p.rate = .zero true → text = "-0".toList) := by
  obtain ⟨front, hfront⟩ := s.exists_render_eq p
  obtain ⟨hequals, hquote⟩ := notMem_write p.rate
  refine ⟨front, p.rate.write .plain, hfront, hequals, hquote, ?_, ?_⟩
  · exact isIntervalNumeral_write_iff (checkRate_of_mem_points h hp)
  · intro hzero
    rw [hzero]
    exact write_zero_true

/-- The greatest interval, written with an exponent in the environment, comes out as digits. -/
theorem Settings.render_interval_greatest :
    let a : Arguments := { firstRun := 1, lastRun := 1 }
    let env : Environment := fun name =>
      if name = "SWEEP_DATA_RATES" then some " , 4.294967295e9" else none
    let s := layered a env true
    let p : Point := ⟨.ofNat 4294967295, .ofNat 50, 1⟩
    ofArguments a env true = .ok s ∧ p ∈ s.points ∧
      ∃ front text, (s.render p).toList = front ++ "--intPck=".toList ++ (text ++ ['"']) ∧
        '=' ∉ text ∧ IsIntervalNumeral text := by
  intro a env s p
  have hok : ofArguments a env true = .ok s := by decide +kernel
  have hp : p ∈ s.points := by
    rw [Plan.mem_points_iff, Plan.mem_runs_iff]
    exact ⟨by decide +kernel, by decide +kernel, Int.le_refl _, Int.le_refl _⟩
  obtain ⟨front, text, hfront, hequals, _, hnumeral, _⟩ := render_interval_iff hok hp
  exact ⟨hok, hp, front, text, hfront, hequals, hnumeral.mpr (by decide +kernel)⟩

/-- A rate of negative zero on the command line is accepted, and its command hands the
    simulator a number with a sign. -/
theorem Settings.render_interval_negative_zero :
    ∃ a s, Usage.read (["1", "1", "--rate=-0"].map Word.ofString) = .ok a ∧
      load a (fun _ => none) = .ok s ∧
      ∃ p ∈ s.points, s.render p = "./waf --run wave-udp-e2e --command-template=\"%s " ++
          "--RngRun=1 --RngSeed=1 --distance=50 --intPck=-0\"" ∧
        ¬ IsIntervalNumeral "-0".toList := by
  let a : Arguments := { firstRun := 1, lastRun := 1, rates := [.zero true] }
  refine ⟨a, layered a (fun _ => none) true, by decide +kernel, by decide +kernel,
    ⟨.zero true, .ofNat 50, 1⟩, ?_, by decide +kernel, ?_⟩
  · rw [Plan.mem_points_iff, Plan.mem_runs_iff]
    exact ⟨by decide +kernel, by decide +kernel, Int.le_refl _, Int.le_refl _⟩
  · exact not_isIntervalNumeral_minus

end SimSweep
