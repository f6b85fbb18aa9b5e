import SimSweep.Proofs.Report.Columns
import SimSweep.Proofs.Report.Counters

/-! # What a shown report tells

    A report is shown under one heading, with its counts, and then in sections that come and
    go: a warning if nothing was launched, else a table if something is listed and a good word
    if nothing failed. The good word is given on the count of failures and not on the verdict,
    which is found by another traversal of the record; both come to the same.

    Main statement: read line by line, what is shown agrees with the report (`display_tells`).
-/

namespace SimSweep

open Row (gap)
open View (countText)
open View.Plain (tableLines)

/-! ## Section 1: Reading lines -/

/-- The lines with a label in front. -/
def linesWith (label : String) (lines : List (List Char)) : List (List Char) :=
  lines.filter fun line => label.toList.isPrefixOf line

@[simp] theorem linesWith_append (label : String) (lines more : List (List Char)) :
    linesWith label (lines ++ more) = linesWith label lines ++ linesWith label more :=
  List.filter_append ..

/-- Something is announced exactly under a condition: then there is one line with the label,
    which says the text, and else there is none. -/
structure Announced (lines : List (List Char)) (label text : String) (condition : Prop) : Prop where
  told : condition → linesWith label lines = [label.toList ++ text.toList]
  untold : ¬ condition → linesWith label lines = []

theorem Announced.of_eq {lines : List (List Char)} {label text : String} {p : Prop} [Decidable p]
    (h : linesWith label lines = if p then [label.toList ++ text.toList] else []) :
    Announced lines label text p where
  told hp := by rw [h, if_pos hp]
  untold hp := by rw [h, if_neg hp]

namespace Report

/-- The invocations of which a table tells. -/
def shown (r : Report) (listsAll : Bool) : List Invocation :=
  if listsAll then r.invocations else r.invocations.filter fun i => decide (i.ending ≠ .success)

/-- The title of a table. -/
def title (listsAll : Bool) : List Char :=
  if listsAll then "Invocations:".toList else "Failed invocations:".toList

/-- Lines tell of a report what there is to tell. -/
structure Tells (r : Report) (listsAll : Bool) (lines : List (List Char)) : Prop where
  total : linesWith "Invocations: " lines = ["Invocations: ".toList ++ (toString r.total).toList]
  succeeded :
    linesWith "Succeeded: " lines = ["Succeeded:   ".toList ++ (toString r.succeeded).toList]
  failed : linesWith "Failed: " lines = ["Failed:      ".toList ++ (toString r.failed).toList]
  warning : Announced lines "WARNING: " "No invocations: empty value set or inverted run range"
    (r.invocations = [])
  success : Announced lines "OK: " "all invocations exited cleanly"
    (r.invocations ≠ [] ∧ r.verdict = .ok ())
  /-- A table is what is indented. -/
  table_iff : linesWith "  " lines ≠ [] ↔
    r.invocations ≠ [] ∧ (listsAll = true ∨ ∃ i ∈ r.invocations, i.ending ≠ .success)
  title_iff : ∀ all, title all ∈ lines ↔ all = listsAll ∧ linesWith "  " lines ≠ []
  /-- It stands in one piece under its title and has one line for each invocation, in their
      order. -/
  table : linesWith "  " lines ≠ [] →
    (∃ before after, lines = before ++ title listsAll :: (linesWith "  " lines ++ after)) ∧
      ShowsGrid (linesWith "  " lines) (grid (r.shown listsAll))

/-! ## Section 2: The lines -/

/-- The lines that every report has. -/
def topLines (r : Report) : List (List Char) :=
  ["WAVE Sweep Results".toList, List.replicate 18 '=', [],
    "Invocations: ".toList ++ countText r.total,
    "Succeeded:   ".toList ++ countText r.succeeded,
    "Failed:      ".toList ++ countText r.failed,
    "Duration:    ".toList ++ r.totalDuration.text]

/-- A table under its title, if something is listed. -/
def listingLines (r : Report) (listsAll : Bool) : List (List Char) :=
  if r.listed listsAll = [] then [] else [] :: title listsAll :: tableLines (r.listed listsAll)

/-- The warning that nothing was launched. -/
def warningLines : List (List Char) :=
  [[], "WARNING: No invocations: empty value set or inverted run range".toList]

/-- The good word. -/
def goodLines : List (List Char) := [[], "OK: all invocations exited cleanly".toList]

/-- It is given if nothing failed. -/
def closingLines (r : Report) : List (List Char) := if r.failed = 0 then goodLines else []

/-- What follows the counts. -/
def sectionLines (r : Report) (listsAll : Bool) : List (List Char) :=
  if r.invocations = [] then warningLines else r.listingLines listsAll ++ r.closingLines

def displayLines (r : Report) (listsAll : Bool) : List (List Char) :=
  r.topLines ++ r.sectionLines listsAll

section Display

variable (r : Report) (listsAll : Bool)

/-- A section starts with a line break behind the text so far, and so does every line of it. -/
theorem listing_eq_flatMap :
    r.listing (.plain listsAll) = (r.listingLines listsAll).flatMap (['\n'] ++ ·) := by
  show (if (r.listed listsAll).isEmpty then [] else
    "\n\n".toList ++ (if listsAll then "Invocations:\n" else "Failed invocations:\n").toList ++
      View.Plain.table (r.listed listsAll)) = _
  unfold listingLines
  by_cases hlisted : r.listed listsAll = []
  · simp [hlisted]
  · have hne : tableLines (r.listed listsAll) ≠ [] := by simp [tableLines, View.Plain.rows]
    have htitle : (if listsAll then "Invocations:\n" else "Failed invocations:\n").toList =
        title listsAll ++ ['\n'] := by
      cases listsAll <;> decide
    rw [if_neg (by simpa using hlisted), if_neg hlisted, htitle,
      View.Plain.table_eq_joinWith _ hlisted]
    simp only [List.flatMap_cons, flatMap_eq_joinWith ['\n'] hne]
    simp

theorem closing_eq_flatMap :
    r.closing (.plain listsAll) = r.closingLines.flatMap (['\n'] ++ ·) := by
  unfold closing closingLines
  split <;> rfl

theorem sections_eq_flatMap :
    (if r.isEmpty then
      "\n\n".toList ++
        View.Plain.warning "No invocations: empty value set or inverted run range".toList
    else r.listing (.plain listsAll) ++ r.closing (.plain listsAll)) =
      (r.sectionLines listsAll).flatMap (['\n'] ++ ·) := by
  unfold sectionLines
  by_cases hempty : r.invocations = []
  · rw [if_pos (by simp [isEmpty, hempty]), if_pos hempty]
    rfl
  · rw [if_neg (by simpa [isEmpty] using hempty), if_neg hempty, List.flatMap_append,
      listing_eq_flatMap, closing_eq_flatMap]

/-- A report is its lines, joined. -/
theorem display_eq_joinWith :
    r.display (.plain listsAll) = joinWith ['\n'] (r.displayLines listsAll) := by
  have htop : View.Plain.heading "WAVE Sweep Results".toList ++ "\n\n".toList ++
      View.Plain.summary r = joinWith ['\n'] r.topLines := by
    have hheading : View.Plain.heading "WAVE Sweep Results".toList =
        "WAVE Sweep Results".toList ++ (['\n'] ++ List.replicate 18 '=') := by decide
    have hblank : "\n\n".toList = ['\n'] ++ (([] : List Char) ++ ['\n']) := by decide
    have hsucceeded : "\nSucceeded:   ".toList = ['\n'] ++ "Succeeded:   ".toList := by decide
    have hfailed : "\nFailed:      ".toList = ['\n'] ++ "Failed:      ".toList := by decide
    have hduration : "\nDuration:    ".toList = ['\n'] ++ "Duration:    ".toList := by decide
    unfold View.Plain.summary
    rw [hheading, hblank, hsucceeded, hfailed, hduration]
    simp only [topLines, joinWith, List.append_assoc]
  have hlines : joinWith ['\n'] (r.displayLines listsAll) =
      joinWith ['\n'] r.topLines ++ (r.sectionLines listsAll).flatMap (['\n'] ++ ·) := by
    rw [displayLines, topLines, List.cons_append, joinWith_cons, joinWith_cons,
      List.flatMap_append, List.append_assoc]
  rw [hlines, ← htop, ← sections_eq_flatMap]
  rfl

end Display

/-! ## Section 3: No line has another line break -/

theorem notMem_countText (n : Nat) : '\n' ∉ countText n :=
  notMem_of_textual (by decide) fun _ hc =>
    Binary64.isTextual_of_isDigit (Decimal.isDigit_of_mem_digitsOf hc)

section Breaks

variable (r : Report) (listsAll : Bool)

theorem notMem_of_mem_topLines : ∀ line ∈ r.topLines, '\n' ∉ line := by
  have hcounted : ∀ label ∈ ["Invocations: ", "Succeeded:   ", "Failed:      "], ∀ n,
      '\n' ∉ label.toList ++ countText n := by
    intro label hlabel n
    have hfixed : ∀ label ∈ ["Invocations: ", "Succeeded:   ", "Failed:      "],
        '\n' ∉ label.toList := by
      decide
    rw [List.mem_append, not_or]
    exact ⟨hfixed label hlabel, notMem_countText n⟩
  have hduration : '\n' ∉ "Duration:    ".toList ++ r.totalDuration.text := by
    rw [List.mem_append, not_or]
    exact ⟨by decide, notMem_of_textual (by decide) fun _ => isTextual_of_mem_text⟩
  unfold topLines
  simp only [List.forall_mem_cons, List.not_mem_nil, false_imp_iff, implies_true, and_true]
  exact ⟨by decide, by decide, not_false, hcounted _ (by simp) _, hcounted _ (by simp) _,
    hcounted _ (by simp) _, hduration⟩

theorem notMem_of_mem_sectionLines : ∀ line ∈ r.sectionLines listsAll, '\n' ∉ line := by
  unfold sectionLines
  split
  · decide
  · rw [List.forall_mem_append]
    constructor
    · unfold listingLines
      split
      · simp
      · have htitle : '\n' ∉ title listsAll := by cases listsAll <;> decide
        rw [List.forall_mem_cons, List.forall_mem_cons]
        exact ⟨List.not_mem_nil, htitle, View.Plain.notMem_of_mem_tableLines _⟩
    · unfold closingLines
      split <;> decide

/-- What is shown falls into its lines. -/
theorem splitAt_display :
    splitAt '\n' (r.display (.plain listsAll)) = r.displayLines listsAll := by
  rw [display_eq_joinWith]
  refine splitAt_joinWith (by simp [displayLines, topLines]) ?_
  rw [displayLines, List.forall_mem_append]
  exact ⟨r.notMem_of_mem_topLines, r.notMem_of_mem_sectionLines listsAll⟩

end Breaks

/-! ## Section 4: What they tell -/

section Telling

variable (r : Report) (listsAll : Bool)

theorem listed_eq_shown : r.listed listsAll = r.shown listsAll := by
  rw [listed, shown, failures_eq_filter]

/-- Something is shown in a table unless nothing was launched, or nothing failed and only
    failures are shown. -/
theorem shown_ne_nil_iff :
    r.shown listsAll ≠ [] ↔
      r.invocations ≠ [] ∧ (listsAll = true ∨ ∃ i ∈ r.invocations, i.ending ≠ .success) := by
  unfold shown
  cases listsAll with
  | true => simp
  | false =>
    simp only [Bool.false_eq_true, if_false, false_or, ne_eq, List.filter_eq_nil_iff,
      decide_eq_true_eq, not_forall, not_not, exists_prop]
    refine ⟨?_, And.right⟩
    rintro ⟨i, hi, hfailed⟩
    exact ⟨List.ne_nil_of_mem hi, i, hi, hfailed⟩

/-- The count of failures, on which the good word is given, agrees with the verdict. -/
theorem failed_eq_zero_iff : r.failed = 0 ↔ r.verdict = .ok () := by
  have hpos := r.failed_pos_iff_ending
  rw [r.judged.clean, ← not_iff_not, ← ne_eq, ← Nat.pos_iff_ne_zero, hpos]
  simp

/-- A label that no line of a table has, nor its title. -/
structure OffTable (label : String) : Prop where
  blank : label.toList.isPrefixOf [] = false
  title : ∀ all, label.toList.isPrefixOf (title all) = false
  row : ∀ t, label.toList.isPrefixOf (gap ++ t) = false

theorem linesWith_listingLines {label : String} (h : OffTable label) :
    linesWith label (r.listingLines listsAll) = [] := by
  have hrows : ∀ line ∈ tableLines (r.listed listsAll), ¬ label.toList.isPrefixOf line := by
    rw [tableLines, List.forall_mem_map]
    intro row _
    rw [h.row]
    exact Bool.false_ne_true
  unfold listingLines
  split
  · rfl
  · unfold linesWith
    rw [List.filter_cons_of_neg (by simp [h.blank]), List.filter_cons_of_neg (by simp [h.title]),
      List.filter_eq_nil_iff.mpr hrows]

/-- The lines with such a label behind the counts. -/
theorem linesWith_sectionLines {label : String} (h : OffTable label) :
    linesWith label (r.sectionLines listsAll) =
      if r.invocations = [] then linesWith label warningLines
      else if r.failed = 0 then linesWith label goodLines
      else [] := by
  unfold sectionLines closingLines
  split
  · rfl
  · rw [linesWith_append, r.linesWith_listingLines listsAll h, List.nil_append]
    split <;> rfl

theorem toList_toString (n : Nat) : (toString n).toList = countText n := Nat.toList_repr

/-- Nothing is counted behind the counts. -/
theorem linesWith_count {label : String} (h : label ∈ ["Invocations: ", "Succeeded: ", "Failed: "]) :
    linesWith label (r.displayLines listsAll) = linesWith label r.topLines := by
  have hsections : linesWith label (r.sectionLines listsAll) = [] := by
    simp only [List.mem_cons, List.not_mem_nil, or_false] at h
    rcases h with rfl | rfl | rfl
    all_goals
      rw [linesWith_sectionLines _ _ ⟨rfl, by decide, fun _ => rfl⟩]
      split
      · rfl
      · split <;> rfl
  rw [displayLines, linesWith_append, hsections, List.append_nil]

theorem indented_tableLines (listed : List Invocation) :
    ∀ line ∈ tableLines listed, "  ".toList.isPrefixOf line := by
  rw [tableLines, List.forall_mem_map]
  exact fun _ _ => rfl

theorem not_indented_title : ∀ all, ¬ "  ".toList.isPrefixOf (title all) := by decide

/-- The lines of a table are those that are indented. -/
theorem linesWith_gap :
    linesWith "  " (r.displayLines listsAll) =
      if r.shown listsAll = [] then [] else tableLines (r.shown listsAll) := by
  have hrows : linesWith "  " (tableLines (r.shown listsAll)) = tableLines (r.shown listsAll) :=
    List.filter_eq_self.mpr (indented_tableLines _)
  have hlisting : linesWith "  " (r.listingLines listsAll) =
      if r.shown listsAll = [] then [] else tableLines (r.shown listsAll) := by
    unfold listingLines
    rw [listed_eq_shown]
    split
    · rfl
    · rw [← hrows]
      unfold linesWith
      rw [List.filter_cons_of_neg (by decide), List.filter_cons_of_neg (not_indented_title _)]
      simp
  have hclosing : linesWith "  " r.closingLines = [] := by
    unfold closingLines
    split <;> rfl
  have htop : linesWith "  " r.topLines = [] := rfl
  rw [displayLines, linesWith_append, htop, List.nil_append, sectionLines]
  by_cases hempty : r.invocations = []
  · have hshown : r.shown listsAll = [] := by simp [shown, hempty]
    rw [if_pos hempty, if_pos hshown]
    rfl
  · rw [if_neg hempty, linesWith_append, hlisting, hclosing, List.append_nil]

theorem linesWith_gap_ne_nil_iff :
    linesWith "  " (r.displayLines listsAll) ≠ [] ↔ r.shown listsAll ≠ [] := by
  rw [linesWith_gap]
  split
  · simp [*]
  · simp [*, tableLines, View.Plain.rows]

theorem title_notMem_topLines (all : Bool) : title all ∉ r.topLines := by
  cases all <;> simp [title, topLines]

/-- A table stands under its title, and only there are titles. -/
theorem title_mem_displayLines_iff (all : Bool) :
    title all ∈ r.displayLines listsAll ↔ all = listsAll ∧ r.shown listsAll ≠ [] := by
  have hrows : title all ∉ tableLines (r.shown listsAll) := fun hmem =>
    not_indented_title all (indented_tableLines _ _ hmem)
  have hfixed : ∀ all, title all ∉ warningLines ∧ title all ∉ goodLines ∧ title all ≠ [] := by
    decide
  have hclosing : title all ∉ r.closingLines := by
    unfold closingLines
    split
    · exact (hfixed all).2.1
    · exact List.not_mem_nil
  have hsame : title all = title listsAll ↔ all = listsAll := by
    cases all <;> cases listsAll <;> decide
  rw [displayLines, List.mem_append, or_iff_right (r.title_notMem_topLines all), sectionLines]
  by_cases hempty : r.invocations = []
  · have hshown : r.shown listsAll = [] := by simp [shown, hempty]
    rw [if_pos hempty, hshown]
    exact iff_of_false (hfixed all).1 fun h => h.2 rfl
  · rw [if_neg hempty, List.mem_append, or_iff_left hclosing, listingLines, listed_eq_shown]
    by_cases hshown : r.shown listsAll = []
    · simp [hshown]
    · simp [hshown, hsame, hrows, (hfixed all).2.2]

/-- The lines of a report tell what there is to tell. -/
theorem tells_displayLines : r.Tells listsAll (r.displayLines listsAll) where
  total := by
    rw [linesWith_count _ _ (by simp), toList_toString]
    rfl
  succeeded := by
    rw [linesWith_count _ _ (by simp), toList_toString]
    rfl
  failed := by
    rw [linesWith_count _ _ (by simp), toList_toString]
    rfl
  warning := by
    refine .of_eq ?_
    rw [displayLines, linesWith_append, linesWith_sectionLines _ _ ⟨rfl, by decide, fun _ => rfl⟩]
    split
    · rfl
    · split <;> rfl
  success := by
    rw [← failed_eq_zero_iff]
    refine .of_eq ?_
    rw [displayLines, linesWith_append, linesWith_sectionLines _ _ ⟨rfl, by decide, fun _ => rfl⟩]
    by_cases hempty : r.invocations = []
    · rw [if_pos hempty, if_neg fun h => h.1 hempty]
      rfl
    · by_cases hfailed : r.failed = 0
      · rw [if_neg hempty, if_pos hfailed, if_pos ⟨hempty, hfailed⟩]
        rfl
      · rw [if_neg hempty, if_neg hfailed, if_neg fun h => hfailed h.2]
        rfl
  table_iff := by
    rw [linesWith_gap_ne_nil_iff, shown_ne_nil_iff]
  title_iff all := by
    rw [linesWith_gap_ne_nil_iff, title_mem_displayLines_iff]
  table := by
    rw [linesWith_gap_ne_nil_iff, linesWith_gap]
    intro hshown
    rw [if_neg hshown]
    refine ⟨⟨r.topLines ++ [[]], r.closingLines, ?_⟩, View.Plain.showsGrid_tableLines _⟩
    have hne : r.invocations ≠ [] := (r.shown_ne_nil_iff listsAll).mp hshown |>.1
    rw [displayLines, sectionLines, if_neg hne, listingLines, listed_eq_shown, if_neg hshown]
    simp

end Telling

/-! ## Section 5: The statement -/

/-- What is shown of a report agrees with it, line by line, whether all invocations are listed
    or only the failed ones: there are always the three counts, and they are right; a warning
    says that nothing was launched exactly if that is so; there is a table exactly if something
    has to be listed, under its own title and with a line for each of the right invocations in
    their order; and the good word is given exactly if there are invocations and the verdict on
    them is good. In colors the same is shown once the style sequences are taken out. -/
theorem display_tells (r : Report) (listsAll : Bool) :
    r.Tells listsAll (splitAt '\n' (r.display (.plain listsAll))) ∧
      ∀ p emits,
        r.Tells listsAll (splitAt '\n' (Terminal.strip (r.display (.colored p emits listsAll)))) := by
  have hplain : r.Tells listsAll (splitAt '\n' (r.display (.plain listsAll))) := by
    rw [splitAt_display]
    exact r.tells_displayLines listsAll
  refine ⟨hplain, fun p emits => ?_⟩
  rw [(r.dressed_display (View.colored_dresses_plain p emits listsAll)).strip_eq]
  exact hplain

/-- Of two invocations the one that failed is listed, and there is no good word. -/
example : ((splitAt '\n' (display
    { startedAt := { seconds := 0, nanos := 0 },
      invocations := [⟨⟨.zero false, .zero true, 1⟩, "sim", .success, .zero⟩,
        ⟨⟨.zero false, .zero true, 2⟩, "sim", .failed 1, .zero⟩] }
    (.plain false))).drop 3).map String.ofList =
    ["Invocations: 2", "Succeeded:   1", "Failed:      1", "Duration:    0.000s", "",
      "Failed invocations:",
      "  RUN  DATA RATE  DISTANCE  STATUS  TIME",
      "  2    0          -0        exit 1  0.000s"] := by
  decide +kernel

end Report

end SimSweep
