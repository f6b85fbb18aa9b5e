import Mathlib.Tactic.ByContra
import SimSweep.Proofs.Report.Verdict

/-! # Counts and verdict of what was recorded

    A report is made by recording invocations one after the other. Its counts are
    exact: successes and failures add up to the total, and as many failures are listed
    as are counted. Its verdict follows from the endings: it is clean only if all of them
    are successes, it names the launcher as soon as one invocation was not started,
    wherever that one stands, and otherwise it gives the number of failures. Which of the
    three it is does not depend on the order of the record.
-/

namespace SimSweep

/-- Only success counts as success. -/
theorem Ending.isSuccess_iff (e : Ending) : e.isSuccess = true ↔ e = .success := by
  cases e <;> simp [isSuccess]

namespace Report

/-! ## Section 1: The record -/

/-- What is recorded stands behind what was recorded before. -/
theorem invocations_foldl_record (is : List Invocation) (r : Report) :
    (is.foldl record r).invocations = r.invocations ++ is := by
  induction is generalizing r with
  | nil => simp
  | cons i rest ih =>
    rw [List.foldl_cons, ih]
    simp [record]

/-- The report of some invocations, recorded in their order. -/
def ofRecord (start : Timestamp) (is : List Invocation) : Report :=
  is.foldl record { startedAt := start }

@[simp] theorem invocations_ofRecord (start : Timestamp) (is : List Invocation) :
    (ofRecord start is).invocations = is :=
  invocations_foldl_record is { startedAt := start }

/-! ## Section 2: The counts -/

theorem succeeded_add_failed (r : Report) : r.succeeded + r.failed = r.total := by
  have hle := r.succeeded_le_total
  unfold failed
  omega

theorem failures_eq_filter (r : Report) :
    r.failures = r.invocations.filter fun i => decide (i.ending ≠ .success) := by
  unfold failures
  apply List.filter_congr
  intro i _
  rw [Bool.eq_iff_iff, decide_eq_true_iff, Bool.not_eq_true', ne_eq, ← i.ending.isSuccess_iff,
    Bool.not_eq_true]
  rfl

/-- As many failures are listed as are counted. -/
theorem length_failures (r : Report) : r.failures.length = r.failed := by
  have hparts := List.length_eq_countP_add_countP Invocation.isSuccess (l := r.invocations)
  have hfailures : r.failures.length = r.invocations.countP fun i => !i.isSuccess :=
    List.countP_eq_length_filter.symm
  unfold failed total succeeded
  simp only [decide_not, Bool.decide_eq_true] at hparts
  omega

/-- The counts of a report are those of what was recorded. -/
structure Counts (r : Report) (is : List Invocation) : Prop where
  total : r.total = is.length
  /-- No more successes are counted than there are invocations, so the difference of the
      two is exact. -/
  succeeded_le : r.succeeded ≤ r.total
  sum : r.succeeded + r.failed = r.total
  failures : r.failures = is.filter fun i => decide (i.ending ≠ .success)
  length_failures : r.failures.length = r.failed

theorem counts_ofRecord (start : Timestamp) (is : List Invocation) :
    (ofRecord start is).Counts is where
  total := congrArg List.length (invocations_ofRecord start is)
  succeeded_le := succeeded_le_total _
  sum := succeeded_add_failed _
  failures := by rw [failures_eq_filter, invocations_ofRecord]
  length_failures := length_failures _

/-! ## Section 3: The verdict -/

/-- Every invocation that was not started gives one reason. -/
theorem length_launchReasons (is : List Invocation) :
    (is.filterMap launchReason?).length = is.countP fun i => i.ending.isUnstarted := by
  induction is with
  | nil => rfl
  | cons i rest ih =>
    unfold launchReason? at ih ⊢
    cases hending : i.ending <;> simp [hending, ih, Ending.isUnstarted]

/-- The reason that is told is that of the first invocation that was not started. The
    number of them is told as well. -/
theorem verdict_of_first (r : Report) {before after : List Invocation} {i : Invocation}
    {reason : String} (hsplit : r.invocations = before ++ i :: after)
    (hreason : i.ending = .notStarted reason)
    (hbefore : ∀ j ∈ before, j.ending.isUnstarted = false) :
    r.verdict = .error (.launch (.notStarted
      (r.invocations.countP fun j => j.ending.isUnstarted) r.total reason)) := by
  have hskipped : before.filterMap launchReason? = [] :=
    List.filterMap_eq_nil_iff.mpr fun j hj => (launchReason?_eq_none_iff j).mpr (hbefore j hj)
  have hfirst : launchReason? i = some reason := by
    unfold launchReason?
    rw [hreason]
  have hreasons : r.invocations.filterMap launchReason? =
      reason :: after.filterMap launchReason? := by
    rw [hsplit, List.filterMap_append, hskipped, List.filterMap_cons_some hfirst, List.nil_append]
  have hcount := length_launchReasons r.invocations
  rw [hreasons, List.length_cons] at hcount
  unfold verdict
  rw [hreasons, ← hcount]

/-- If everything was started, only the count of failures matters. -/
theorem verdict_of_started (r : Report) (h : ∀ i ∈ r.invocations, i.ending.isUnstarted = false) :
    r.verdict = if 0 < r.failed then .error (.sweep r.failed r.total) else .ok () := by
  have hreasons : r.invocations.filterMap launchReason? = [] :=
    List.filterMap_eq_nil_iff.mpr fun i hi => (launchReason?_eq_none_iff i).mpr (h i hi)
  unfold verdict
  rw [hreasons]

/-- Among some invocations of which not all were started there is a first one. -/
theorem exists_first_unstarted {is : List Invocation} (h : ∃ i ∈ is, i.ending.isUnstarted) :
    ∃ before i after reason, is = before ++ i :: after ∧ i.ending = .notStarted reason ∧
      ∀ j ∈ before, j.ending.isUnstarted = false := by
  obtain ⟨i, hfound⟩ := Option.isSome_iff_exists.mp (List.find?_isSome.mpr h)
  obtain ⟨hunstarted, before, after, hsplit, hbefore⟩ := List.find?_eq_some_iff_append.mp hfound
  obtain ⟨reason, hreason⟩ : ∃ reason, i.ending = .notStarted reason := by
    cases hending : i.ending <;> simp_all [Ending.isUnstarted]
  exact ⟨before, i, after, reason, hsplit, hreason, by simpa using hbefore⟩

/-- The verdict on a report is the one that the record calls for. -/
structure Judged (r : Report) (is : List Invocation) : Prop where
  clean : r.verdict = .ok () ↔ ∀ i ∈ is, i.ending = .success
  unstarted : (∃ fault, r.verdict = .error (.launch fault)) ↔ ∃ i ∈ is, i.ending.isUnstarted
  /-- The launcher is blamed with the reason of the first invocation that was not started. -/
  first : ∀ before i after reason, is = before ++ i :: after → i.ending = .notStarted reason →
    (∀ j ∈ before, j.ending.isUnstarted = false) →
    let count := is.countP fun j => j.ending.isUnstarted
    let failure : Failure := .launch (.notStarted count r.total reason)
    r.verdict = .error failure ∧
      failure.message = "Launch error: " ++ (toString count ++ " of " ++ toString r.total ++
        " invocations could not be started: " ++ reason)
  failed : (∀ i ∈ is, i.ending.isUnstarted = false) → (∃ i ∈ is, i.ending ≠ .success) →
    r.verdict = .error (.sweep r.failed r.total) ∧ 1 ≤ r.failed ∧ r.failed ≤ r.total

/-- Invocations that were started may have failed, and then the count says so. -/
theorem failed_pos_iff_ending (r : Report) :
    0 < r.failed ↔ ∃ i ∈ r.invocations, i.ending ≠ .success := by
  rw [r.failed_pos_iff]
  simp only [ne_eq, ← Ending.isSuccess_iff]
  rfl

theorem judged (r : Report) : r.Judged r.invocations where
  clean := by
    by_cases hstarted : ∀ i ∈ r.invocations, i.ending.isUnstarted = false
    · rw [r.verdict_of_started hstarted]
      have hfailed := r.failed_pos_iff_ending
      by_cases hpos : 0 < r.failed
      · obtain ⟨i, hi, hne⟩ := hfailed.mp hpos
        rw [if_pos hpos]
        exact ⟨fun h => (by cases h), fun h => absurd (h i hi) hne⟩
      · rw [if_neg hpos]
        refine ⟨fun _ i hi => ?_, fun _ => rfl⟩
        by_contra hne
        exact hpos (hfailed.mpr ⟨i, hi, hne⟩)
    · -- neither side holds if an invocation was not started
      simp only [not_forall, Bool.not_eq_false] at hstarted
      obtain ⟨j, hj, hunstarted⟩ := hstarted
      obtain ⟨before, i, after, reason, hsplit, hreason, hbefore⟩ :=
        exists_first_unstarted ⟨j, hj, hunstarted⟩
      rw [r.verdict_of_first hsplit hreason hbefore]
      refine ⟨fun h => (by cases h), fun h => ?_⟩
      rw [h j hj] at hunstarted
      cases hunstarted
  unstarted := by
    constructor
    · rintro ⟨fault, hfault⟩
      by_contra hnone
      simp only [not_exists, not_and, Bool.not_eq_true] at hnone
      rw [r.verdict_of_started hnone] at hfault
      split at hfault <;> cases hfault
    · intro h
      obtain ⟨before, i, after, reason, hsplit, hreason, hbefore⟩ := exists_first_unstarted h
      exact ⟨_, r.verdict_of_first hsplit hreason hbefore⟩
  first before i after reason hsplit hreason hbefore :=
    ⟨r.verdict_of_first hsplit hreason hbefore, rfl⟩
  failed hstarted hfailed := by
    have hpos := r.failed_pos_iff_ending.mpr hfailed
    have hsum := r.succeeded_add_failed
    rw [r.verdict_of_started hstarted, if_pos hpos]
    exact ⟨rfl, hpos, by omega⟩

/-! ## Section 4: The kind of the verdict -/

/-- What kind of result a judgement is: none if it is clean, else its category. -/
def kind : Except Failure Unit → Option String
  | .ok () => none
  | .error f => some f.category

/-- The kind of a verdict depends only on which invocations there are. -/
theorem kind_verdict_congr {r s : Report} (h : ∀ i, i ∈ r.invocations ↔ i ∈ s.invocations) :
    kind r.verdict = kind s.verdict := by
  by_cases hunstarted : ∃ i ∈ r.invocations, i.ending.isUnstarted
  · obtain ⟨f, hf⟩ := r.judged.unstarted.mpr hunstarted
    simp only [h] at hunstarted
    obtain ⟨g, hg⟩ := s.judged.unstarted.mpr hunstarted
    rw [hf, hg]
    rfl
  have hstarted : ∀ i ∈ r.invocations, i.ending.isUnstarted = false := by
    simpa using hunstarted
  by_cases hfailed : ∃ i ∈ r.invocations, i.ending ≠ .success
  · obtain ⟨hr, -⟩ := r.judged.failed hstarted hfailed
    simp only [h] at hstarted hfailed
    obtain ⟨hs, -⟩ := s.judged.failed hstarted hfailed
    rw [hr, hs]
    rfl
  · have hclean : ∀ i ∈ r.invocations, i.ending = .success := by simpa using hfailed
    have hr := r.judged.clean.mpr hclean
    simp only [h] at hclean
    rw [hr, s.judged.clean.mpr hclean]

/-! ## Section 5: The statement -/

/-- Whatever is recorded, in whatever order: the counts of the report are exact, its verdict
    is the one that the record calls for, and the kind of the verdict is that on the same
    invocations in any other order. -/
theorem ofRecord_counts_and_verdict (start : Timestamp) (is : List Invocation) :
    (ofRecord start is).Counts is ∧ (ofRecord start is).Judged is ∧
      ∀ (start' : Timestamp) (js : List Invocation), js.Perm is →
        kind (ofRecord start' js).verdict = kind (ofRecord start is).verdict := by
  refine ⟨counts_ofRecord start is, ?_, ?_⟩
  · have hjudged := (ofRecord start is).judged
    rw [invocations_ofRecord] at hjudged
    exact hjudged
  · intro start' js hperm
    apply kind_verdict_congr
    intro i
    rw [invocations_ofRecord, invocations_ofRecord]
    exact hperm.mem_iff

/-- An invocation that fails, and two that are not started around one that succeeds. -/
def mixed : List Invocation :=
  [Ending.failed 2, .notStarted "no sh", .success, .notStarted "no sh either"].map fun ending =>
    { point := ⟨.zero false, .zero false, 1⟩, command := "sim", ending, duration := .zero }

/-- The failure in front does not keep the launcher from being blamed. -/
theorem ofRecord_counts_and_verdict_mixed :
    (ofRecord { seconds := 0, nanos := 0 } mixed).verdict =
      .error (.launch (.notStarted 2 4 "no sh")) := by
  obtain ⟨hcounts, hjudged, -⟩ :=
    ofRecord_counts_and_verdict { seconds := 0, nanos := 0 } mixed
  have hbefore : ∀ j ∈ mixed.take 1, j.ending.isUnstarted = false := by
    simp [mixed, Ending.isUnstarted]
  have htotal := hcounts.total
  rw [(hjudged.first (mixed.take 1) mixed[1] (mixed.drop 2) "no sh" rfl rfl hbefore).1, htotal]
  rfl

end Report

end SimSweep
