import SimSweep.Proofs.Json.Scaling
import SimSweep.Proofs.Serial.Report
import SimSweep.Serial.Parameters

/-! # Parameters read back

    Settings, plans and points with finite numbers are decoded from their own text. All
    that is not a rate or a distance comes back as it was, and so do the rates and the
    distances of which reading holds the digits and the power of ten exactly. Any other one
    keeps its sign and comes back as one of the magnitudes around it.
-/

namespace SimSweep

open Json (Decoder Number Record Value ReadsExactly drift scaledRank? written)

/-! ## Section 1: Numbers -/

/-- A magnitude and the one that is read where it is written: the decimal of its numeral,
    scaled. -/
structure RereadRank (k r : Nat) : Prop where
  numeral : ∃ n : Json.Numeral, n.IsWritten ∧ Binary64.magnitudeText .json k = n.text ∧
    n.decimal = written k
  scaled : scaledRank? (written k).coefficient (written k).exponent = some r
  le : r ≤ k + drift (written k).exponent
  ge : k ≤ r + drift (written k).exponent
  exact : ReadsExactly (written k) → r = k

/-- A finite number and the one that is read where it is written. -/
inductive Reread : Binary64 → Binary64 → Prop where
  | finite (negative : Bool) {k r : Fin rankBound} (h : RereadRank k.val r.val) :
    Reread (.finite negative k) (.finite negative r)

theorem Json.Decoder.reads_binary64 {x : Binary64} (h : x.isFinite) :
    ∃ y, Reread x y ∧ Decoder.binary64.Reads Number.reread 0 (.ofBinary64 x) y := by
  cases x with
  | nan => cases h
  | infinite negative => cases h
  | finite negative k =>
    obtain ⟨r, hscaled, hle, hge, hexact, hreads⟩ := Number.exists_readsAs_near negative k
    obtain ⟨n, hwritten, _, htext, hdecimal⟩ := Json.exists_numeral k.isLt
    refine ⟨.finite negative r,
      .finite negative ⟨⟨n, hwritten, htext, hdecimal⟩, hscaled, hle, hge,
        fun h => congrArg Fin.val (hexact h)⟩,
      fun _ _ => hreads.reread, ?_⟩
    show Decoder.binary64 (.number (.ok (Number.reread _))) = _
    rw [hreads.reread_eq]
    rfl

theorem Json.Decoder.reads_numbers {xs : List Binary64} (h : ∀ x ∈ xs, x.isFinite) :
    ∃ ys, List.Forall₂ Reread xs ys ∧
      (Decoder.list Decoder.binary64).Reads Number.reread 1 (.ofNumbers xs) ys := by
  have hitems : ∃ ys, List.Forall₂ (fun x y => Reread x y ∧
      Decoder.binary64.Reads Number.reread 0 (.ofBinary64 x) y) xs ys := by
    induction xs with
    | nil => exact ⟨[], .nil⟩
    | cons x xs ih =>
      rw [List.forall_mem_cons] at h
      obtain ⟨y, hy⟩ := reads_binary64 h.1
      obtain ⟨ys, hys⟩ := ih h.2
      exact ⟨y :: ys, .cons hy hys⟩
  obtain ⟨ys, hys⟩ := hitems
  exact ⟨ys, hys.imp fun _ _ h => h.1, Decoder.reads_list (hys.imp fun _ _ h => h.2)⟩

/-! ## Section 2: Points, plans and settings -/

/-- A point and the one that is read where it is written. -/
structure Point.RereadAs (p q : Point) : Prop where
  rate : Reread p.rate q.rate
  distance : Reread p.distance q.distance
  run : q.run = p.run

theorem Point.exists_reads {p : Point} (hrate : p.rate.isFinite) (hdistance : p.distance.isFinite) :
    ∃ q, p.RereadAs q ∧
      Point.codec.decode.Reads Number.reread 1 (Point.codec.encode p) q := by
  obtain ⟨rate, hrate, hreads⟩ := Decoder.reads_binary64 hrate
  obtain ⟨distance, hdistance, hreads'⟩ := Decoder.reads_binary64 hdistance
  have htakes := (((Record.takes_required "data_rate" hreads).map Point.mk).seq
    (Record.takes_required "distance" hreads')).seq
    (Record.takes_required "run" (Decoder.reads_int64 p.run))
  exact ⟨⟨rate, distance, p.run⟩, ⟨hrate, hdistance, rfl⟩, htakes.reads (by simp) true⟩

/-- A plan and the one that is read where it is written. -/
structure Plan.RereadAs (p q : Plan) : Prop where
  rates : List.Forall₂ Reread p.rates q.rates
  distances : List.Forall₂ Reread p.distances q.distances
  others : { q with rates := p.rates, distances := p.distances } = p

theorem Plan.exists_reads {p : Plan} (hrates : ∀ x ∈ p.rates, x.isFinite)
    (hdistances : ∀ x ∈ p.distances, x.isFinite) :
    ∃ q, p.RereadAs q ∧ Plan.codec.decode.Reads Number.reread 2 (Plan.codec.encode p) q := by
  obtain ⟨rates, hrates, hreads⟩ := Decoder.reads_numbers hrates
  obtain ⟨distances, hdistances, hreads'⟩ := Decoder.reads_numbers hdistances
  have hrun : ∀ i : Int64, Decoder.int64.Reads Number.reread 1 (.ofInt i.toInt) i :=
    fun i => (Decoder.reads_int64 i).mono (by decide)
  have htakes := ((((Record.takes_required "data_rates" hreads).map Plan.mk).seq
    (Record.takes_required "distances" hreads')).seq
    (Record.takes_required "start_run" (hrun p.firstRun))).seq
    (Record.takes_required "end_run" (hrun p.lastRun))
  exact ⟨⟨rates, distances, p.firstRun, p.lastRun⟩, ⟨hrates, hdistances, rfl⟩,
    htakes.reads (by simp) true⟩

/-- Settings and those that are read where they are written. -/
structure Settings.RereadAs (s t : Settings) : Prop where
  rates : List.Forall₂ Reread s.rates t.rates
  distances : List.Forall₂ Reread s.distances t.distances
  others : { t with rates := s.rates, distances := s.distances } = s

theorem Settings.exists_reads {s : Settings} (hrates : ∀ x ∈ s.rates, x.isFinite)
    (hdistances : ∀ x ∈ s.distances, x.isFinite) :
    ∃ t, s.RereadAs t ∧
      Settings.codec.decode.Reads Number.reread 2 (Settings.codec.encode s) t := by
  obtain ⟨rates, hrates, hreads⟩ := Decoder.reads_numbers hrates
  obtain ⟨distances, hdistances, hreads'⟩ := Decoder.reads_numbers hdistances
  have hrun : ∀ i : Int64, Decoder.int64.Reads Number.reread 1 (.ofInt i.toInt) i :=
    fun i => (Decoder.reads_int64 i).mono (by decide)
  have htext : ∀ t : String, Decoder.string.Reads Number.reread 1 (.string t) t :=
    fun t => (Decoder.reads_string t).mono (by decide)
  have hflag : ∀ (name : String) (b value : Bool),
      (Record.defaulted name Decoder.bool value).Takes Number.reread 1 [(name, .bool b)] b :=
    fun name b value => Record.takes_defaulted name value ((Decoder.reads_bool b).mono (by decide))
  have hplan := ((((Record.takes_required "data_rates" hreads).map Settings.ofFields).seq
    (Record.takes_required "distances" hreads')).seq
    (Record.takes_required "start_run" (hrun s.firstRun))).seq
    (Record.takes_required "end_run" (hrun s.lastRun))
  have htemplate := ((hplan.seq
    (Record.takes_required "launcher" (htext s.launcher))).seq
    (Record.takes_required "scenario" (htext s.scenario))).seq
    (Record.takes_required "program" (htext s.program))
  have hflags := (((((htemplate.seq
    (hflag "dry_run" s.dryRun false)).seq
    (hflag "strict" s.strict false)).seq
    (hflag "json_summary" s.jsonReport false)).seq
    (hflag "enable_color" s.colors true)).seq
    (hflag "verbose" s.verbose false)).seq
    (hflag "debug" s.debug false)
  exact ⟨{ s with rates, distances }, ⟨hrates, hdistances, rfl⟩, hflags.reads (by simp) true⟩

/-! ## Section 3: Their texts -/

/-- Parameters with finite numbers are decoded from their own compact text, and are what
    they were but for numbers of which reading rounds the digits or the power of ten. -/
theorem parse_parameters :
    (∀ s : Settings, (∀ x ∈ s.rates ++ s.distances, x.isFinite) →
      ∃ t, Settings.codec.parse (Settings.codec.encode s).compact = .ok t ∧ s.RereadAs t) ∧
    (∀ p : Plan, (∀ x ∈ p.rates ++ p.distances, x.isFinite) →
      ∃ q, Plan.codec.parse (Plan.codec.encode p).compact = .ok q ∧ p.RereadAs q) ∧
    ∀ p : Point, p.rate.isFinite → p.distance.isFinite →
      ∃ q, Point.codec.parse (Point.codec.encode p).compact = .ok q ∧ p.RereadAs q := by
  have hblank := Json.Layout.compact_isBlank
  refine ⟨fun s h => ?_, fun p h => ?_, fun p hrate hdistance => ?_⟩
  · rw [List.forall_mem_append] at h
    obtain ⟨t, hreread, hreads⟩ := Settings.exists_reads h.1 h.2
    exact ⟨t, hreads.parse (by decide) hblank, hreread⟩
  · rw [List.forall_mem_append] at h
    obtain ⟨q, hreread, hreads⟩ := Plan.exists_reads h.1 h.2
    exact ⟨q, hreads.parse (by decide) hblank, hreread⟩
  · obtain ⟨q, hreread, hreads⟩ := Point.exists_reads hrate hdistance
    exact ⟨q, hreads.parse (by decide) hblank, hreread⟩

/-- A fraction, the smallest and the largest magnitude, and zero with a sign. -/
def Settings.unruly : Settings where
  rates := [.ofRatio false 1 10, .ofRank true (rankBound - 1), .zero true]
  distances := [.ofRank false 1, .ofNat 9007199254740991]
  firstRun := Int64.minValue
  scenario := "a\n\"b\""
  debug := true

/-- The largest whole number of which all below are magnitudes. -/
def Point.odd : Point := ⟨.ofNat 800000, .ofNat 9007199254740991, 1⟩

theorem parse_parameters_unruly :
    ((∀ x ∈ Settings.unruly.rates ++ Settings.unruly.distances, x.isFinite) ∧
      Point.odd.rate.isFinite ∧ Point.odd.distance.isFinite) ∧
    (∃ t, Settings.codec.parse (Settings.codec.encode Settings.unruly).compact = .ok t ∧
      Settings.unruly.RereadAs t) ∧
    (∃ q, Plan.codec.parse (Plan.codec.encode Settings.unruly.toPlan).compact = .ok q ∧
      Settings.unruly.toPlan.RereadAs q) ∧
    ∃ q, Point.codec.parse (Point.codec.encode Point.odd).compact = .ok q ∧
      Point.odd.RereadAs q := by
  have hfinite : ∀ x ∈ Settings.unruly.rates ++ Settings.unruly.distances, x.isFinite := by
    decide +kernel
  have hrate : Point.odd.rate.isFinite := by decide +kernel
  have hdistance : Point.odd.distance.isFinite := by decide +kernel
  exact ⟨⟨hfinite, hrate, hdistance⟩, parse_parameters.1 _ hfinite, parse_parameters.2.1 _ hfinite,
    parse_parameters.2.2 _ hrate hdistance⟩

/-- It is written with a zero behind its point, and these digits are rounded. -/
theorem parse_odd : Point.codec.parse (Point.codec.encode Point.odd).compact ≠ .ok Point.odd := by
  intro hparse
  obtain ⟨q, hreread, hreads⟩ := Point.exists_reads (p := Point.odd) (by decide +kernel)
    (by decide +kernel)
  obtain rfl : q = Point.odd :=
    Except.ok.inj ((hreads.parse (by decide) Json.Layout.compact_isBlank).symm.trans hparse)
  have hdistance : Point.odd.distance = .finite false ⟨4845873199050653695, by decide⟩ := by
    decide +kernel
  -- its distance would be read as itself, but it is read as a quotient that is less
  have hself := hreread.distance
  rw [hdistance] at hself
  obtain ⟨_, hrank⟩ := hself
  have hwritten : written 4845873199050653695 = ⟨90071992547409910, -1⟩ := by decide +kernel
  have hscaled := hrank.scaled
  rw [hwritten] at hscaled
  have hquotient := Option.some.inj hscaled
  rw [Json.divideByPower_of_le _ (by decide)] at hquotient
  exact absurd hquotient (by decide +kernel)

end SimSweep
