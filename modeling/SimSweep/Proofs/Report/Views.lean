import Mathlib.Data.List.Forall2
import SimSweep.Proofs.Command.Line
import SimSweep.Proofs.Terminal.Dressing
import SimSweep.Proofs.Text.Parts
import SimSweep.Report.Display

/-! # Two views of one report

    The colored view fills up, paints, joins and trims in another order than the plain
    view. Its table is what makes the difference delicate: a status is painted when it is
    filled up, and only then is the line trimmed. The blanks that are taken off stand
    behind the last cell, though, which is never painted and never blank, so trimming
    meets the same text in both views (`Tailed.dressed_trimEnd`).

    Main statement: what the colored view shows is what the plain view shows with style
    sequences put in, and just that where no escape sequences are taken.
-/

namespace SimSweep

open Binary64 (isTextual isTextual_of_isDigit)
open Terminal (Dressed escape paint dressed_paint paint_false)

/-! ## Section 1: Trimming at the end -/

/-- Two texts, the first of them dressed, with one tail that is not all blank. -/
structure Tailed (u t : List Char) : Prop where
  split : ∃ u' t' tail, u = u' ++ tail ∧ t = t' ++ tail ∧ Dressed u' t' ∧ escape ∉ tail ∧
    ∃ c ∈ tail, ¬ isBlank c

namespace Tailed

variable {u t u' t' : List Char}

theorem of_tail (h : Dressed u t) {tail : List Char} (hescape : escape ∉ tail)
    (hblank : ∃ c ∈ tail, ¬ isBlank c) : Tailed (u ++ tail) (t ++ tail) :=
  ⟨u, t, tail, rfl, rfl, h, hescape, hblank⟩

theorem dressed (h : Tailed u t) : Dressed u t := by
  obtain ⟨u', t', tail, rfl, rfl, hdressed, hescape, _⟩ := h.split
  exact hdressed.append (.refl hescape)

/-- Something may come before. -/
theorem append_left (hd : Dressed u' t') (h : Tailed u t) : Tailed (u' ++ u) (t' ++ t) := by
  obtain ⟨front, front', tail, rfl, rfl, hdressed, hescape, hblank⟩ := h.split
  rw [← List.append_assoc, ← List.append_assoc]
  exact .of_tail (hd.append hdressed) hescape hblank

/-- A text without escape characters may come after. -/
theorem append_right (h : Tailed u t) {s : List Char} (hs : escape ∉ s) :
    Tailed (u ++ s) (t ++ s) := by
  obtain ⟨front, front', tail, rfl, rfl, hdressed, hescape, c, hc, hblank⟩ := h.split
  rw [List.append_assoc, List.append_assoc]
  refine .of_tail hdressed ?_ ⟨c, List.mem_append_left _ hc, hblank⟩
  simp [hescape, hs]

/-- Trimming takes the same blanks off both texts. -/
theorem trimmed (h : Tailed u t) : Tailed (trimEnd u) (trimEnd t) := by
  obtain ⟨front, front', tail, rfl, rfl, hdressed, hescape, c, hc, hblank⟩ := h.split
  rw [trimEnd_append ⟨c, hc, hblank⟩, trimEnd_append ⟨c, hc, hblank⟩]
  exact .of_tail hdressed (fun hmem => hescape (mem_of_mem_trimEnd hmem))
    ⟨c, mem_trimEnd hc hblank, hblank⟩

end Tailed

/-- Lines that are dressed one by one are dressed together. -/
theorem tailed_asLines {us ts : List (List Char)} (h : List.Forall₂ Tailed us ts) (hne : us ≠ []) :
    Tailed (asLines us) (asLines ts) := by
  have hbreak : escape ∉ ['\n'] := by decide
  induction h with
  | nil => exact absurd rfl hne
  | @cons u t us ts hline hrest ih =>
    have hfirst := hline.append_right hbreak
    unfold asLines at ih ⊢
    rw [List.flatMap_cons, List.flatMap_cons]
    cases hrest with
    | nil => simpa using hfirst
    | cons hline' hrest' => exact (ih (by simp)).append_left hfirst.dressed

/-! ## Section 2: What is written has no escape characters -/

theorem escape_notMem_of_digits {t : List Char} (h : ∀ c ∈ t, c.isDigit) : escape ∉ t := by
  intro hmem
  exact absurd (h escape hmem) (by decide)

theorem notMem_of_textual {t : List Char} {d : Char} (hd : ¬ isTextual d)
    (h : ∀ c ∈ t, isTextual c) : d ∉ t :=
  fun hmem => hd (h d hmem)

theorem escape_notMem_of_textual {t : List Char} (h : ∀ c ∈ t, isTextual c) :
    escape ∉ t :=
  notMem_of_textual (by decide) h

theorem escape_notMem_digitsOf (n : Nat) : escape ∉ Decimal.digitsOf n :=
  escape_notMem_of_digits fun _ => Decimal.isDigit_of_mem_digitsOf

theorem isTextual_of_mem_toString {i : Int} {c : Char} (h : c ∈ (toString i).toList) :
    isTextual c := by
  rw [toList_toString_int] at h
  exact isTextual_of_mem_intText h

theorem isTextual_of_mem_text {d : Duration} {c : Char} (h : c ∈ d.text) : isTextual c := by
  have hdigits : ∀ t n, ∀ c ∈ List.replicate t '0' ++ Decimal.digitsOf n, c.isDigit := by
    intro t n c hc
    rcases List.mem_append.mp hc with hc | hc
    · exact Decimal.isDigit_of_mem_zeros hc
    · exact Decimal.isDigit_of_mem_digitsOf hc
  unfold Duration.text Binary64.fixedPlaces at h
  rcases List.mem_append.mp h with h | h
  · rcases Decimal.isDigit_or_eq_point_of_mem_positional (hdigits _ _) h with h | rfl
    · exact isTextual_of_isDigit h
    · rfl
  · rw [List.mem_singleton.mp h]
    rfl

theorem escape_notMem_toString (i : Int) : escape ∉ (toString i).toList :=
  escape_notMem_of_textual fun _ => isTextual_of_mem_toString

theorem escape_notMem_text (d : Duration) : escape ∉ d.text :=
  escape_notMem_of_textual fun _ => isTextual_of_mem_text

/-- A duration ends in its unit, so it is not blank. -/
theorem exists_mem_text (d : Duration) : ∃ c ∈ d.text, ¬ isBlank c :=
  ⟨'s', by simp [Duration.text], by decide⟩

theorem escape_notMem_label (e : Ending) : escape ∉ e.label.toList := by
  cases e with
  | success => decide
  | failed code =>
    simp only [Ending.label, String.toList_append, List.mem_append, not_or]
    exact ⟨by decide, escape_notMem_toString _⟩
  | terminated signal =>
    cases signal with
    | none => decide
    | some signal =>
      simp only [Ending.label, String.toList_append, List.mem_append, not_or]
      exact ⟨by decide, escape_notMem_toString _⟩
  | notStarted reason =>
    show escape ∉ "launch failed".toList
    decide

theorem escape_notMem_padRight {t : List Char} (h : escape ∉ t) (w : Nat) :
    escape ∉ padRight w t := by
  unfold padRight
  rw [List.mem_append, not_or]
  refine ⟨h, fun hmem => ?_⟩
  exact absurd (List.eq_of_mem_replicate hmem) (by decide)

theorem Row.forall_mem_toList {α : Type} {P : α → Prop} {row : Row α} :
    (∀ cell ∈ row.toList, P cell) ↔
      P row.run ∧ P row.rate ∧ P row.distance ∧ P row.status ∧ P row.time := by
  simp [Row.toList]

/-- Cells without escape characters stay so when they are filled up. -/
theorem escape_notMem_padded {row : Row (List Char)} (h : ∀ cell ∈ row.toList, escape ∉ cell)
    (w : Row Nat) : ∀ cell ∈ (row.padded w).toList, escape ∉ cell := by
  rw [Row.forall_mem_toList] at h ⊢
  obtain ⟨hrun, hrate, hdistance, hstatus, htime⟩ := h
  exact ⟨escape_notMem_padRight hrun _, escape_notMem_padRight hrate _,
    escape_notMem_padRight hdistance _, escape_notMem_padRight hstatus _,
    escape_notMem_padRight htime _⟩

theorem escape_notMem_ofInvocation (i : Invocation) :
    ∀ cell ∈ (Row.ofInvocation i).toList, escape ∉ cell := by
  have hnumber : ∀ x : Binary64, escape ∉ x.write .plain := fun _ =>
    escape_notMem_of_textual fun _ => Binary64.isTextual_of_mem_write
  rw [Row.forall_mem_toList]
  exact ⟨escape_notMem_of_textual fun _ => isTextual_of_mem_intText, hnumber _, hnumber _,
    escape_notMem_label i.ending, escape_notMem_text i.duration⟩

theorem escape_notMem_headings : ∀ cell ∈ Row.headings.toList, escape ∉ cell := by decide

/-! ## Section 3: The parts -/

namespace Row

/-- Cells that are joined: the last of them stands at the end. -/
theorem joined_eq (cells : Row (List Char)) :
    cells.joined =
      trimEnd ((cells.run ++ gap ++ cells.rate ++ gap ++ cells.distance ++ gap ++ cells.status ++
        gap) ++ cells.time) := by
  unfold joined
  congr 1
  simp [joinWith, toList]

theorem escape_notMem_joined {cells : Row (List Char)}
    (h : ∀ cell ∈ cells.toList, escape ∉ cell) : escape ∉ cells.joined := by
  have hgap : escape ∉ gap := by decide
  obtain ⟨hrun, hrate, hdistance, hstatus, htime⟩ := forall_mem_toList.mp h
  rw [joined_eq]
  intro hmem
  have hmem' := mem_of_mem_trimEnd hmem
  simp [hgap, hrun, hrate, hdistance, hstatus, htime] at hmem'

end Row

namespace View

variable (p : Palette) (emits : Bool)

/-- A line with a painted status, for a column of any width. -/
theorem tailed_line (w : Row Nat) (i : Invocation) :
    Tailed (Colored.line p emits w i) (Plain.line w i) := by
  have hgap : escape ∉ Row.gap := by decide
  have hcells := escape_notMem_padded (escape_notMem_ofInvocation i) w
  have hlast : ∃ c ∈ ((Row.ofInvocation i).padded w).time, ¬ isBlank c := by
    obtain ⟨c, hc, hblank⟩ := exists_mem_text i.duration
    exact ⟨c, List.mem_append_left _ hc, hblank⟩
  unfold Colored.line Plain.line
  generalize (Row.ofInvocation i).padded w = cells at hcells hlast ⊢
  obtain ⟨hrun, hrate, hdistance, hstatus, htime⟩ := Row.forall_mem_toList.mp hcells
  have hfront : escape ∉ cells.run ++ Row.gap ++ cells.rate ++ Row.gap ++ cells.distance ++
      Row.gap := by
    simp [hgap, hrun, hrate, hdistance]
  -- everything in front of the last cell
  have hdressed := ((Dressed.refl hfront).append
    (dressed_paint emits (.colored (p.ofEnding i.ending)) hstatus)).append (.refl hgap)
  have htailed := (Tailed.of_tail hdressed htime hlast).trimmed
  show Tailed (Row.gap ++ (cells.mapStatus _).joined) (Row.gap ++ cells.joined)
  rw [Row.joined_eq, Row.joined_eq]
  exact htailed.append_left (.refl hgap)

/-- The table: its lines are trimmed one by one, and the last of them once more with the
    line break that follows it. -/
theorem dressed_table (listed : List Invocation) :
    Dressed (Colored.table p emits listed) (Plain.table listed) := by
  unfold Colored.table Plain.table
  cases listed with
  | nil => exact .nil
  | cons i rest =>
    have hgap : escape ∉ Row.gap := by decide
    have hbreak : escape ∉ ['\n'] := by decide
    simp only [List.isEmpty_cons, Bool.false_eq_true, if_false]
    generalize Row.widths ((i :: rest).map Row.ofInvocation) = w
    have hheading : Dressed (Colored.headingLine emits w) (Plain.headingLine w) :=
      (Dressed.refl hgap).append
        (dressed_paint emits _
          (Row.escape_notMem_joined (escape_notMem_padded escape_notMem_headings w)))
    have hlines : Tailed (asLines ((i :: rest).map (Colored.line p emits w)))
        (asLines ((i :: rest).map (Plain.line w))) := by
      refine tailed_asLines ?_ (by simp)
      rw [List.forall₂_map_left_iff, List.forall₂_map_right_iff, List.forall₂_same]
      exact fun i _ => tailed_line p emits w i
    exact (hlines.append_left (hheading.append (.refl hbreak))).trimmed.dressed

/-- The counts. -/
theorem dressed_summary (r : Report) :
    Dressed (Colored.summary p emits r) (Plain.summary r) := by
  have hcount : ∀ (s : Style) (n : Nat), Dressed (paint emits s (countText n)) (countText n) :=
    fun s n => dressed_paint emits s (escape_notMem_digitsOf n)
  have hlabel : ∀ label ∈ ["Invocations: ", "\nSucceeded:   ", "\nFailed:      ",
      "\nDuration:    "], escape ∉ label.toList := by
    decide
  have hlabelled : ∀ label ∈ ["Invocations: ", "\nSucceeded:   ", "\nFailed:      ",
      "\nDuration:    "], Dressed label.toList label.toList := fun label h => .refl (hlabel label h)
  unfold Colored.summary Plain.summary
  exact ((((((hlabelled _ (by simp)).append (hcount _ _)).append (hlabelled _ (by simp))).append
    (hcount _ _)).append (hlabelled _ (by simp))).append (hcount _ _)).append
      (hlabelled _ (by simp)) |>.append (.refl (escape_notMem_text r.totalDuration))

/-! ## Section 4: The whole -/

/-- Part by part, a view writes what another one writes, with style sequences put in. -/
structure Dresses (v v' : View) : Prop where
  heading : ∀ title, escape ∉ title → Dressed (v.heading title) (v'.heading title)
  summary : ∀ r, Dressed (v.summary r) (v'.summary r)
  table : ∀ listed, Dressed (v.table listed) (v'.table listed)
  warning : ∀ text, escape ∉ text → Dressed (v.warning text) (v'.warning text)
  success : ∀ text, escape ∉ text → Dressed (v.success text) (v'.success text)
  listsAll : v.listsAll = v'.listsAll

theorem colored_dresses_plain (listsAll : Bool) :
    (View.colored p emits listsAll).Dresses (.plain listsAll) where
  heading := by
    intro title h
    have hbreak : escape ∉ ['\n'] := by decide
    have hline : escape ∉ List.replicate title.length '=' := fun hmem =>
      absurd (List.eq_of_mem_replicate hmem) (by decide)
    exact (dressed_paint emits _ h).append
      ((Dressed.refl hbreak).append (dressed_paint emits _ hline))
  summary := dressed_summary p emits
  table := dressed_table p emits
  warning := by
    intro text h
    have hblank : escape ∉ [' '] := by decide
    have htag : escape ∉ "WARNING:".toList := by decide
    exact (dressed_paint emits _ htag).append ((Dressed.refl hblank).append (.refl h))
  success := by
    intro text h
    have hblank : escape ∉ [' '] := by decide
    have htag : escape ∉ "OK:".toList := by decide
    exact (dressed_paint emits _ htag).append ((Dressed.refl hblank).append (.refl h))
  listsAll := rfl

/-- Where no escape sequences are taken, there is one view only. -/
theorem colored_false (listsAll : Bool) :
    View.colored p false listsAll = View.plain listsAll := by
  have hline : Colored.line p false = Plain.line := by
    funext w i
    have hsame : ∀ (s : Style) (cells : Row (List Char)), cells.mapStatus (paint false s) = cells :=
      fun s cells => by simp [Row.mapStatus]
    simp [Colored.line, Plain.line, hsame]
  have htable : Colored.table p false = Plain.table := by
    funext listed
    simp only [Colored.table, Plain.table, hline, Colored.headingLine, Plain.headingLine,
      paint_false]
  have hsummary : Colored.summary p false = Plain.summary := by
    funext r
    unfold Colored.summary Plain.summary
    rw [paint_false, paint_false, paint_false]
  have hheading : Colored.heading p false = Plain.heading := by
    funext title
    simp only [Colored.heading, Plain.heading, paint_false]
  have hwarning : Colored.warning p false = Plain.warning := by
    funext text
    have htag : "WARNING: ".toList = "WARNING:".toList ++ [' '] := by decide
    unfold Colored.warning Plain.warning
    rw [paint_false, htag, List.append_assoc]
    rfl
  have hsuccess : Colored.success p false = Plain.success := by
    funext text
    have htag : "OK: ".toList = "OK:".toList ++ [' '] := by decide
    unfold Colored.success Plain.success
    rw [paint_false, htag, List.append_assoc]
    rfl
  unfold View.colored View.plain
  rw [htable, hsummary, hheading, hwarning, hsuccess]

end View

namespace Report

/-- A report is composed in one way, whatever view writes its parts. -/
theorem dressed_display {v v' : View} (h : v.Dresses v') (r : Report) :
    Dressed (r.display v) (r.display v') := by
  have hbreak : escape ∉ "\n\n".toList := by decide
  have hlisting : Dressed (r.listing v) (r.listing v') := by
    unfold listing
    rw [h.listsAll]
    split
    · exact .nil
    · refine ((Dressed.refl hbreak).append (.refl ?_)).append (h.table _)
      split <;> decide
  have hclosing : Dressed (r.closing v) (r.closing v') := by
    unfold closing
    split
    · exact (Dressed.refl hbreak).append (h.success _ (by decide))
    · exact .nil
  have hrest : Dressed
      (if r.isEmpty then
        "\n\n".toList ++
          v.warning "No invocations: empty value set or inverted run range".toList
      else r.listing v ++ r.closing v)
      (if r.isEmpty then
        "\n\n".toList ++
          v'.warning "No invocations: empty value set or inverted run range".toList
      else r.listing v' ++ r.closing v') := by
    split
    · exact (Dressed.refl hbreak).append (h.warning _ (by decide))
    · exact hlisting.append hclosing
  exact (((h.heading _ (by decide)).append (.refl hbreak)).append (h.summary r)).append hrest

/-- In any colors, and whether all invocations are listed or the failed ones only: where
    escape sequences are taken, the colored view of a report without its style sequences
    is the plain view, character for character; where they are not taken, the two views
    are identical. -/
theorem strip_display_colored (p : Palette) (listsAll : Bool) (r : Report) :
    Terminal.strip (r.display (.colored p true listsAll)) = r.display (.plain listsAll) ∧
    r.display (.colored p false listsAll) = r.display (.plain listsAll) := by
  constructor
  · exact (r.dressed_display (View.colored_dresses_plain p true listsAll)).strip_eq
  · rw [View.colored_false]

end Report

end SimSweep
