import Mathlib.Logic.Function.Basic
import SimSweep.Proofs.Arguments.Values
import SimSweep.Proofs.Program.Prepared
import SimSweep.Proofs.Settings.Lists
import SimSweep.Proofs.Settings.Validation

/-! # Values given or listed

    The values of a quantity are given one by one in the words of the command line, or
    they are listed in a variable of the environment. The two are read by different rules:
    a value that is given is checked at once, and one that is listed only when the settings
    are complete. Main statement: they still come to the same settings, or to none
    (`prepare_given_or_listed`).

    A value is taken from the words exactly if it is an entry of a list that passes the
    check of its quantity. If all values are of this kind, both ways lead to the same
    layers and so to the same settings or to the same failure. If one is not, the words
    cannot be read, and settings with the list would hold a value that fails its check.
-/

namespace SimSweep

open Usage (readText)
open NumberList (readEntry IsEntry)

/-! ## Section 1: Single values -/

theorem Usage.readText_eq (q : Quantity) (s : String) :
    readText q s =
      match Binary64.read? (trim s.toList) with
      | none => .error (.badValue q.slot s ("Invalid number: " ++ s))
      | some x =>
        if ¬ x.isFinite then .error (.badValue q.slot s ("Value must be finite: " ++ s))
        else if x.isNegative then .error (.badValue q.slot s ("Value cannot be negative: " ++ s))
        else .ok x := by
  unfold readText readQuantity textOf
  rw [text?_ofString]
  rfl

/-- A value is taken from the words exactly if it is an entry of a list that passes the
    check of its quantity. -/
theorem Usage.readText_eq_ok_iff (q : Quantity) (variableName s : String) (x : Binary64) :
    readText q s = .ok x ↔
      readEntry variableName (trim s.toList) = .ok x ∧ Settings.checkQuantity q x = .ok () := by
  rw [readText_eq, Settings.checkQuantity_eq_ok_iff]
  unfold readEntry
  cases Binary64.read? (trim s.toList) with
  | none => simp
  | some y =>
    simp only [refuse_eq_ok_iff, Except.ok.injEq, not_not]
    constructor
    · rintro ⟨hfinite, hnegative, rfl⟩
      exact ⟨rfl, hfinite, hnegative⟩
    · rintro ⟨rfl, hfinite, hnegative⟩
      exact ⟨hfinite, hnegative, rfl⟩

/-- A value that is refused is named with its argument. -/
theorem Usage.readText_eq_error {q : Quantity} {s : String} {f : Fault}
    (h : readText q s = .error f) : ∃ reason, f = .badValue q.slot s reason := by
  rw [readText_eq] at h
  split at h
  · cases h
    exact ⟨_, rfl⟩
  · split_ifs at h
    · cases h
      exact ⟨_, rfl⟩
    · cases h
      exact ⟨_, rfl⟩

namespace Settings

/-! ## Section 2: What settings depend on -/

theorem readable_iff_not_unreadable {env : Environment} {name : String} :
    Readable env name ↔ ∀ f, ¬ Unreadable env name f := by
  constructor
  · intro h f hf
    obtain ⟨text, hset, herror⟩ := hf
    obtain ⟨xs, hok⟩ := h text hset
    cases hok.symm.trans herror
  · intro h
    exact (readable_or_unreadable env name).resolve_right fun ⟨f, hf⟩ => h f hf

/-- The settings depend on the conflict of the arguments, on what cannot be read in the
    environment and on the layers. -/
theorem ofArguments_congr {a a' : Arguments} {env env' : Environment} {colors : Bool}
    (hconflict : (a.color ∧ a.noColor) ↔ (a'.color ∧ a'.noColor))
    (hunreadable : ∀ name f, Unreadable env name f ↔ Unreadable env' name f)
    (hlayers : layered a env colors = layered a' env' colors) :
    ofArguments a env colors = ofArguments a' env' colors := by
  have hreadable : ∀ name, Readable env name ↔ Readable env' name := by
    intro name
    simp only [readable_iff_not_unreadable, hunreadable]
  cases h : ofArguments a env colors with
  | ok s =>
    rw [ofArguments_eq_ok_iff, hlayers, hconflict, hreadable, hreadable,
      ← ofArguments_eq_ok_iff] at h
    exact h.symm
  | error f =>
    simp only [ofArguments_eq_error_iff, hlayers, hconflict, hreadable, hunreadable] at h
    exact (ofArguments_eq_error_iff.mpr h).symm

end Settings

/-! ## Section 3: Listing values -/

/-- The values of a quantity in a plan. -/
def Plan.valuesOf (p : Plan) : Quantity → List Binary64
  | .dataRate => p.rates
  | .distance => p.distances

/-- The values of valid settings pass the check of their quantity. -/
theorem Settings.checkQuantity_of_validate {s : Settings} (h : s.validate = .ok ())
    (q : Quantity) : ∀ x ∈ s.valuesOf q, checkQuantity q x = .ok () := by
  obtain ⟨hrates, hdistances, _⟩ := validate_eq_ok_iff.mp h
  intro x hx
  cases q with
  | dataRate => exact (check_bind_eq_ok_iff.mp (hrates x hx)).1
  | distance => exact hdistances x hx

/-- The name of the variable that a quantity is listed in. -/
def Quantity.variableName : Quantity → String
  | .dataRate => "SWEEP_DATA_RATES"
  | .distance => "SWEEP_DISTANCES"

/-- Without a preset a quantity has the values that are given, or else those that are
    listed, or else the built-in ones. -/
theorem Settings.valuesOf_layered {a : Arguments} (hpreset : a.preset = none) {env : Environment}
    {colors : Bool} {q : Quantity} :
    (layered a env colors).valuesOf q =
      chosenNumbers (a.valuesOf q) none (listIn env q.variableName)
        (({} : Settings).valuesOf q) := by
  have hnone : ∀ f : Preset → List Binary64, a.preset.map f = none := by
    intro f
    rw [hpreset, Option.map_none]
  cases q with
  | dataRate => exact congrArg (chosenNumbers a.rates · _ _) (hnone Preset.rates)
  | distance => exact congrArg (chosenNumbers a.distances · _ _) (hnone Preset.distances)

/-- An environment in which values of a quantity are listed. -/
def listing (env : Environment) (q : Quantity) (ss : List String) : Environment :=
  Function.update env q.variableName (some (",".intercalate ss))

theorem listing_self (env : Environment) (q : Quantity) (ss : List String) :
    listing env q ss q.variableName = some (",".intercalate ss) :=
  Function.update_self ..

/-- All else in the environment is as before. -/
theorem listing_of_ne (env : Environment) (q : Quantity) (ss : List String) {name : String}
    (h : name ≠ q.variableName) : listing env q ss name = env name :=
  Function.update_of_ne h ..

theorem wantsColors_listing (a : Arguments) (env : Environment) (q : Quantity)
    (ss : List String) : a.wantsColors (listing env q ss) = a.wantsColors env := by
  have hterm : listing env q ss "TERM" = env "TERM" :=
    listing_of_ne env q ss (by cases q <;> decide)
  have hcolor : listing env q ss "NO_COLOR" = env "NO_COLOR" :=
    listing_of_ne env q ss (by cases q <;> decide)
  unfold Arguments.wantsColors Arguments.environmentWantsColors
  rw [hterm, hcolor]

section Listed

variable {q : Quantity} {ss : List String} {env : Environment} {xs : List Binary64}

theorem listIn_listing (hread : NumberList.read q.variableName (",".intercalate ss) = .ok xs) :
    Settings.listIn (listing env q ss) q.variableName = some xs := by
  unfold Settings.listIn
  rw [listing_self, Option.bind_some, hread]
  rfl

theorem listIn_listing_of_ne (name : String) (hname : name ≠ q.variableName) :
    Settings.listIn (listing env q ss) name = Settings.listIn env name := by
  unfold Settings.listIn
  rw [listing_of_ne env q ss hname]

/-- A list that can be read makes nothing unreadable. -/
theorem unreadable_listing_iff (hunset : env q.variableName = none)
    (hread : NumberList.read q.variableName (",".intercalate ss) = .ok xs)
    (name : String) (f : Failure) :
    Settings.Unreadable env name f ↔ Settings.Unreadable (listing env q ss) name f := by
  unfold Settings.Unreadable
  by_cases hname : name = q.variableName
  · rw [hname, listing_self, hunset]
    constructor
    · rintro ⟨text, hset, _⟩
      cases hset
    · rintro ⟨text, hset, herror⟩
      cases hset
      cases hread.symm.trans herror
  · rw [listing_of_ne env q ss hname]

/-- What is listed takes the place of what would be given. -/
theorem layered_listing {a : Arguments} (hvalues : a.valuesOf q = []) (hpreset : a.preset = none)
    (hne : xs ≠ []) (hread : NumberList.read q.variableName (",".intercalate ss) = .ok xs)
    (colors : Bool) :
    Settings.layered (a.withFirst q xs) env colors =
      Settings.layered a (listing env q ss) colors := by
  have hchosen : ∀ builtIn,
      Settings.chosenNumbers (xs ++ a.valuesOf q) none
          (Settings.listIn env q.variableName) builtIn =
        Settings.chosenNumbers (a.valuesOf q) none
          (Settings.listIn (listing env q ss) q.variableName) builtIn := by
    intro builtIn
    rw [hvalues, listIn_listing hread, List.append_nil]
    unfold Settings.chosenNumbers
    rw [if_neg hne, if_pos rfl, Option.none_or, Option.getD_some]
  have hother : ∀ name ≠ q.variableName, listing env q ss name = env name := fun _ hname =>
    listing_of_ne env q ss hname
  unfold Settings.layered
  cases q with
  | dataRate =>
    simp only [Arguments.valuesOf, Quantity.variableName] at hchosen
    simp only [Arguments.withFirst, hpreset, Option.map_none, hchosen,
      listIn_listing_of_ne (q := .dataRate) "SWEEP_DISTANCES" (by decide),
      hother "SWEEP_LAUNCHER" (by decide), hother "SWEEP_SCENARIO" (by decide),
      hother "SWEEP_PROGRAM" (by decide)]
  | distance =>
    simp only [Arguments.valuesOf, Quantity.variableName] at hchosen
    simp only [Arguments.withFirst, hpreset, Option.map_none, hchosen,
      listIn_listing_of_ne (q := .distance) "SWEEP_DATA_RATES" (by decide),
      hother "SWEEP_LAUNCHER" (by decide), hother "SWEEP_SCENARIO" (by decide),
      hother "SWEEP_PROGRAM" (by decide)]

theorem wantsColors_withFirst (a : Arguments) :
    (a.withFirst q xs).wantsColors env = a.wantsColors env := by
  cases q <;> rfl

/-- Values that are given make the settings that they make if they are listed. -/
theorem load_listing {a : Arguments} (hvalues : a.valuesOf q = []) (hpreset : a.preset = none)
    (hunset : env q.variableName = none) (hne : xs ≠ [])
    (hread : NumberList.read q.variableName (",".intercalate ss) = .ok xs) :
    Settings.load (a.withFirst q xs) env = Settings.load a (listing env q ss) := by
  unfold Settings.load
  rw [wantsColors_withFirst, wantsColors_listing]
  refine Settings.ofArguments_congr ?_ (unreadable_listing_iff hunset hread) ?_
  · cases q <;> exact Iff.rfl
  · exact layered_listing hvalues hpreset hne hread _

/-- Settings that are made from a list have the values that are listed. -/
theorem valuesOf_layered_listing {a : Arguments} (hvalues : a.valuesOf q = [])
    (hpreset : a.preset = none)
    (hread : NumberList.read q.variableName (",".intercalate ss) = .ok xs) (colors : Bool) :
    (Settings.layered a (listing env q ss) colors).valuesOf q = xs := by
  rw [Settings.valuesOf_layered hpreset, hvalues, listIn_listing hread]
  rfl

/-- A list is refused if one of its entries is no value that could be given. -/
theorem load_listing_refuses {a : Arguments} (hvalues : a.valuesOf q = [])
    (hpreset : a.preset = none) (hne : ss ≠ []) (hentries : ∀ s ∈ ss, IsEntry s)
    {fault : Usage.Fault} (hbad : ss.mapM (readText q) = .error fault) :
    ∃ f, Settings.load a (listing env q ss) = .error f ∧ Settings.IsRefusal f := by
  cases hload : Settings.load a (listing env q ss) with
  | error f => exact ⟨f, rfl, Settings.load_refuses _ _ f hload⟩
  | ok s =>
    -- then the list can be read, and each of its values passes its check
    exfalso
    obtain ⟨rfl, _, hrates, hdistances, hvalid⟩ := Settings.ofArguments_eq_ok_iff.mp hload
    have hreadable : Settings.Readable (listing env q ss) q.variableName := by
      cases q with
      | dataRate => exact hrates
      | distance => exact hdistances
    obtain ⟨xs, hread⟩ := hreadable _ (listing_self env q ss)
    have hchecks := Settings.checkQuantity_of_validate hvalid q
    rw [valuesOf_layered_listing hvalues hpreset hread] at hchecks
    rw [NumberList.read_intercalate hne hentries] at hread
    have hgood := (mapM_eq_ok_iff_of_iff (Usage.readText_eq_ok_iff q _)).mpr ⟨hread, hchecks⟩
    cases hgood.symm.trans hbad

end Listed

/-! ## Section 4: Values given or listed -/

section GivenOrListed

variable {q : Quantity} {ss : List String} {words : List Word} {a : Arguments} {env : Environment}

/-- Good values make the same settings, or are refused with the same failure, either way. -/
theorem Settings.prepare_of_good_values (hne : ss ≠ []) (hentries : ∀ s ∈ ss, IsEntry s)
    (hread : Usage.read words = .ok a) (hvalues : a.valuesOf q = []) (hpreset : a.preset = none)
    (hunset : env q.variableName = none) {xs : List Binary64}
    (hgood : ss.mapM (readText q) = .ok xs) :
    prepare (ss.map q.word ++ words) env = prepare words (listing env q ss) := by
  have hlist := ((mapM_eq_ok_iff_of_iff (Usage.readText_eq_ok_iff q q.variableName)).mp hgood).1
  rw [← NumberList.read_intercalate hne hentries] at hlist
  have hxs : xs ≠ [] := by
    obtain ⟨s, rest, rfl⟩ := List.exists_cons_of_ne_nil hne
    obtain ⟨x, xs', _, _, rfl⟩ := mapM_cons_eq_ok_iff.mp hgood
    exact List.cons_ne_nil x xs'
  have hgiven : Usage.read (ss.map q.word ++ words) = .ok (a.withFirst q xs) := by
    rw [Usage.read_values_append, hgood, hread]
    rfl
  rw [prepare_of_read_ok hgiven, prepare_of_read_ok hread,
    load_listing hvalues hpreset hunset hxs hlist]

/-- A bad value is the fault of the words where it is given, and where it is listed the
    settings are refused. -/
theorem Settings.prepare_of_bad_value (env : Environment) (hne : ss ≠ [])
    (hentries : ∀ s ∈ ss, IsEntry s) (hread : Usage.read words = .ok a)
    (hvalues : a.valuesOf q = []) (hpreset : a.preset = none)
    {fault : Usage.Fault} (hbad : ss.mapM (readText q) = .error fault) :
    (∃ s ∈ ss, ∃ reason, prepare (ss.map q.word ++ words) env =
      .error (.stopped (.fault (.badValue q.slot s reason)))) ∧
    ∃ f, prepare words (listing env q ss) = .error (.refused f) ∧ IsRefusal f := by
  constructor
  · have hgiven : Usage.read (ss.map q.word ++ words) = .error (.fault fault) := by
      rw [Usage.read_values_append, hbad]
      rfl
    obtain ⟨s, hs, hfault⟩ := exists_of_mapM_eq_error hbad
    obtain ⟨reason, rfl⟩ := Usage.readText_eq_error hfault
    exact ⟨s, hs, reason, prepare_of_read_error hgiven⟩
  · obtain ⟨f, hload, hrefusal⟩ : ∃ f, load a (listing env q ss) = .error f ∧ IsRefusal f :=
      load_listing_refuses hvalues hpreset hne hentries hbad
    refine ⟨f, ?_, hrefusal⟩
    rw [prepare_of_read_ok hread, hload]
    rfl

end GivenOrListed

/-- Values of a quantity that are given one by one in front of some words, and the same
    values listed in the variable of the quantity, make the same settings or none, where
    the words give no such value and no preset and the variable is not set otherwise. If
    they make none, then what is listed is refused for its configuration or for a value,
    what is given is refused for the same reason or because one of the values is bad, and
    neither run calls its runner. -/
theorem Settings.prepare_given_or_listed (q : Quantity) {ss : List String} (hne : ss ≠ [])
    (hentries : ∀ s ∈ ss, IsEntry s) {words : List Word} {a : Arguments}
    (hread : Usage.read words = .ok a) (hvalues : a.valuesOf q = []) (hpreset : a.preset = none)
    {env : Environment} (hunset : env q.variableName = none) :
    let given := ss.map q.word ++ words
    let listed := listing env q ss
    (∃ s, prepare given env = .ok s ∧ prepare words listed = .ok s) ∨
    (∃ denial f, prepare given env = .error denial ∧ prepare words listed = .error (.refused f) ∧
      (f.category = "CONFIG" ∨ f.category = "VALIDATION") ∧
      (denial = .refused f ∨
        ∃ s ∈ ss, ∃ reason, denial = .stopped (.fault (.badValue q.slot s reason))) ∧
      ∀ (σ : Type) (o : Program.Outside σ) (start : σ),
        Program.callsOf ((Program.run o.system given env).run { outside := start }).2.events = [] ∧
        Program.callsOf
          ((Program.run o.system words listed).run { outside := start }).2.events = []) := by
  intro given listed
  cases hvals : ss.mapM (readText q) with
  | ok xs =>
    have hsame : prepare given env = prepare words listed :=
      prepare_of_good_values hne hentries hread hvalues hpreset hunset hvals
    have hlisted : prepare words listed = (load a listed).mapError .refused :=
      prepare_of_read_ok hread
    cases hload : load a listed with
    | ok s =>
      rw [hload] at hlisted
      exact .inl ⟨s, hsame.trans hlisted, hlisted⟩
    | error f =>
      rw [hload] at hlisted
      refine .inr ⟨_, f, hsame.trans hlisted, hlisted, ?_, .inl rfl, fun σ o start => ⟨?_, ?_⟩⟩
      · exact (load_refuses a listed f hload).category
      · exact Program.callsOf_run_of_prepare (hsame.trans hlisted) o start
      · exact Program.callsOf_run_of_prepare hlisted o start
  | error fault =>
    obtain ⟨⟨s, hs, reason, hgiven⟩, f, hlisted, hrefusal⟩ :=
      prepare_of_bad_value env hne hentries hread hvalues hpreset hvals
    refine .inr ⟨_, f, hgiven, hlisted, hrefusal.category, .inr ⟨s, hs, reason, rfl⟩,
      fun σ o start => ⟨?_, ?_⟩⟩
    · exact Program.callsOf_run_of_prepare hgiven o start
    · exact Program.callsOf_run_of_prepare hlisted o start

/-- Rates with blanks of all kinds around them, signs, a zero below zero and an exponent,
    beside distances from the environment. -/
theorem Settings.prepare_given_or_listed_signs :
    let ss := ["\u2003+8E2", "-0\u00A0", " .4294967295e+10"]
    let words := ["3", "--strict", "-2"].map Word.ofString
    let env : Environment := fun name => if name = "SWEEP_DISTANCES" then some ", 7,1e-3" else none
    let s : Settings :=
      { rates := [.ofNat 800, .zero true, .ofNat 4294967295]
        distances := [.ofNat 7, .ofRatio false 1 1000]
        firstRun := 3
        lastRun := -2
        strict := true }
    prepare (ss.map Quantity.dataRate.word ++ words) env = .ok s ∧
      prepare words (listing env .dataRate ss) = .ok s := by
  intro ss words env s
  have hentries : ∀ s ∈ ss, IsEntry s := by
    intro s hs
    have hall : ∀ s ∈ ss, ¬ isBlankText s ∧ ',' ∉ s.toList := by decide
    exact ⟨(hall s hs).1, (hall s hs).2⟩
  have hread : Usage.read words = .ok { firstRun := 3, lastRun := -2, strict := true } := by
    decide +kernel
  have hgiven : prepare (ss.map Quantity.dataRate.word ++ words) env = .ok s := by
    decide +kernel
  have hunset : env Quantity.dataRate.variableName = none := by decide
  rcases prepare_given_or_listed .dataRate (by decide) hentries hread rfl rfl hunset with
    ⟨s', hs', hlisted⟩ | ⟨denial, f, hdenied, _⟩
  · cases hgiven.symm.trans hs'
    exact ⟨hgiven, hlisted⟩
  · cases hgiven.symm.trans hdenied

end SimSweep
