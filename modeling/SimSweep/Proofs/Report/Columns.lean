import Mathlib.Order.Bounds.Defs
import SimSweep.Proofs.Report.Views

/-! # A table read back

    A cell never starts or ends with a blank and never has two of them in a row, while there
    are at least two between neighbours. So a line falls into its cells at its gaps, though
    the columns are as wide as they have to be and the blanks at the end of a line are gone
    (`splitGaps_sideBySide`). Every cell but the last is filled up to the width of its column,
    which is why a column starts at one place in all lines (`standsAt_sideBySide`).

    Main statement: the lines of a table show the grid of its cells (`table_shows_grid`).
-/

namespace SimSweep

open Binary64 (isTextual)
open Row (gap)

/-! ## Section 1: Gaps -/

/-- The parts of a text between its gaps. A gap is a run of two or more blanks, as far as it
    goes; `part` is what was read since the last one, and `blanks` blanks were read since. -/
def splitGapsFrom (part : List Char) (blanks : Nat) : List Char → List (List Char)
  | [] => if 2 ≤ blanks then [part, []] else [part ++ List.replicate blanks ' ']
  | c :: cs =>
    if c = ' ' then splitGapsFrom part (blanks + 1) cs
    else if 2 ≤ blanks then part :: splitGapsFrom [c] 0 cs
    else splitGapsFrom (part ++ List.replicate blanks ' ' ++ [c]) 0 cs

/-- The parts of a text between its gaps, an empty one included if it starts or ends with a
    gap. -/
def splitGaps (cs : List Char) : List (List Char) := splitGapsFrom [] 0 cs

/-- Two blanks are a gap, and so are five; one blank is none. -/
example : splitGaps "ab c  d     e ".toList = ["ab c", "d", "e "].map String.toList := by decide

section Splitting

variable {c : Char} (hc : c ≠ ' ') (part cs : List Char)

include hc

theorem splitGapsFrom_cons : splitGapsFrom part 0 (c :: cs) = splitGapsFrom (part ++ [c]) 0 cs := by
  simp [splitGapsFrom, hc]

/-- One blank is part of the text. -/
theorem splitGapsFrom_one :
    splitGapsFrom part 1 (c :: cs) = splitGapsFrom (part ++ [' ']) 0 (c :: cs) := by
  simp [splitGapsFrom, hc]

/-- Two or more end a part. -/
theorem splitGapsFrom_gap {n : Nat} (hn : 2 ≤ n) :
    splitGapsFrom part n (c :: cs) = part :: splitGaps (c :: cs) := by
  simp [splitGaps, splitGapsFrom, hc, hn]

end Splitting

theorem splitGapsFrom_replicate (part rest : List Char) (n blanks : Nat) :
    splitGapsFrom part blanks (List.replicate n ' ' ++ rest) =
      splitGapsFrom part (blanks + n) rest := by
  induction n generalizing blanks with
  | zero => rfl
  | succ n ih =>
    rw [List.replicate_succ, List.cons_append, splitGapsFrom, if_pos rfl, ih]
    congr 1
    omega

/-! ## Section 2: Cells -/

/-- A text that is one part wherever it stands: words with single blanks between them. -/
inductive IsCell : List Char → Prop where
  | single {c : Char} (hc : ¬ isBlank c) : IsCell [c]
  | cons {c : Char} {t : List Char} (hc : ¬ isBlank c) (ht : IsCell t) : IsCell (c :: t)
  | blank {c : Char} {t : List Char} (hc : ¬ isBlank c) (ht : IsCell t) : IsCell (c :: ' ' :: t)

theorem ne_of_not_isBlank {c d : Char} (hc : ¬ isBlank c) (hd : isBlank d) : c ≠ d := by
  rintro rfl
  exact hc hd

namespace IsCell

variable {t u : List Char}

theorem exists_cons (h : IsCell t) : ∃ c rest, t = c :: rest ∧ ¬ isBlank c := by
  cases h with
  | single hc => exact ⟨_, _, rfl, hc⟩
  | cons hc _ => exact ⟨_, _, rfl, hc⟩
  | blank hc _ => exact ⟨_, _, rfl, hc⟩

/-- A text without any blanks is a cell. -/
theorem of_forall (hne : t ≠ []) (h : ∀ c ∈ t, ¬ isBlank c) : IsCell t := by
  induction t with
  | nil => exact absurd rfl hne
  | cons c rest ih =>
    obtain ⟨hc, hrest⟩ := List.forall_mem_cons.mp h
    cases rest with
    | nil => exact .single hc
    | cons d rest => exact .cons hc (ih (by simp) hrest)

/-- Whether a text has none can be computed. -/
theorem of_all (hne : t ≠ []) (h : t.all fun c => !isBlank c) : IsCell t :=
  of_forall hne (by simpa using h)

/-- Two cells with a blank between them are a cell. -/
theorem append_blank (ht : IsCell t) (hu : IsCell u) : IsCell (t ++ ' ' :: u) := by
  induction ht with
  | single hc => exact .blank hc hu
  | cons hc _ ih => exact .cons hc ih
  | blank hc _ ih => exact .blank hc ih

/-- A cell has no other blanks, so it is no more than one line. -/
theorem notMem_of_isBlank (h : IsCell t) {d : Char} (hd : isBlank d) (hne : d ≠ ' ') : d ∉ t := by
  induction h with
  | single hc => simpa using (ne_of_not_isBlank hc hd).symm
  | cons hc _ ih => simp [(ne_of_not_isBlank hc hd).symm, ih]
  | blank hc _ ih => simp [(ne_of_not_isBlank hc hd).symm, hne, ih]

/-- A cell goes to the part that is being read. -/
theorem splitGapsFrom_append (h : IsCell t) (part rest : List Char) :
    splitGapsFrom part 0 (t ++ rest) = splitGapsFrom (part ++ t) 0 rest := by
  have hspace : isBlank ' ' := by decide
  induction h generalizing part with
  | single hc => exact splitGapsFrom_cons (ne_of_not_isBlank hc hspace) part rest
  | @cons c t hc _ ih =>
    rw [List.cons_append, splitGapsFrom_cons (ne_of_not_isBlank hc hspace), ih]
    simp
  | @blank c t hc ht ih =>
    obtain ⟨d, t, rfl, hd⟩ := ht.exists_cons
    have hblank : splitGapsFrom (part ++ [c]) 0 (' ' :: (d :: t ++ rest)) =
        splitGapsFrom (part ++ [c] ++ [' ']) 0 (d :: t ++ rest) :=
      splitGapsFrom_one (ne_of_not_isBlank hd hspace) (part ++ [c]) (t ++ rest)
    rw [List.cons_append, List.cons_append, splitGapsFrom_cons (ne_of_not_isBlank hc hspace),
      hblank, ih]
    simp

/-- A cell alone is the only part. -/
theorem splitGaps_eq (h : IsCell t) : splitGaps t = [t] := by
  have hsplit := h.splitGapsFrom_append [] []
  rw [List.append_nil] at hsplit
  rw [splitGaps, hsplit]
  simp [splitGapsFrom]

/-- A cell with a gap behind it is the first part. -/
theorem splitGaps_append (h : IsCell t) {n : Nat} (hn : 2 ≤ n) {c : Char} (hc : ¬ isBlank c)
    (rest : List Char) :
    splitGaps (t ++ (List.replicate n ' ' ++ c :: rest)) = t :: splitGaps (c :: rest) := by
  rw [splitGaps, h.splitGapsFrom_append, splitGapsFrom_replicate, List.nil_append, Nat.zero_add,
    splitGapsFrom_gap (ne_of_not_isBlank hc (by decide)) t rest hn]

end IsCell

/-- A text with a cell at its end. -/
def EndsInCell (t : List Char) : Prop := ∃ front cell, IsCell cell ∧ t = front ++ cell

theorem IsCell.endsInCell {t : List Char} (h : IsCell t) : EndsInCell t := ⟨[], t, h, rfl⟩

/-- The last character of a cell is no blank. -/
theorem IsCell.exists_concat {t : List Char} (h : IsCell t) :
    ∃ front c, t = front ++ [c] ∧ ¬ isBlank c := by
  induction h with
  | single hc => exact ⟨[], _, rfl, hc⟩
  | @cons c _ _ _ ih =>
    obtain ⟨front, d, rfl, hd⟩ := ih
    exact ⟨c :: front, d, rfl, hd⟩
  | @blank c _ _ _ ih =>
    obtain ⟨front, d, rfl, hd⟩ := ih
    exact ⟨c :: ' ' :: front, d, rfl, hd⟩

namespace EndsInCell

variable {t : List Char}

theorem append_left (h : EndsInCell t) (s : List Char) : EndsInCell (s ++ t) := by
  obtain ⟨front, cell, hcell, rfl⟩ := h
  exact ⟨s ++ front, cell, hcell, by simp⟩

theorem exists_concat (h : EndsInCell t) : ∃ front c, t = front ++ [c] ∧ ¬ isBlank c := by
  obtain ⟨before, cell, hcell, rfl⟩ := h
  obtain ⟨front, c, rfl, hc⟩ := hcell.exists_concat
  exact ⟨before ++ front, c, by simp, hc⟩

/-- Nothing is trimmed off such a text but the blanks behind it. -/
theorem trimEnd_eq (h : EndsInCell t) {blanks : List Char} (hblanks : ∀ c ∈ blanks, isBlank c) :
    trimEnd (t ++ blanks) = t := by
  obtain ⟨front, c, rfl, hc⟩ := h.exists_concat
  rw [trimEnd_append_right hblanks, trimEnd_append ⟨c, List.mem_singleton.mpr rfl, hc⟩]
  simp [trimEnd, hc]

theorem getLast?_ne (h : EndsInCell t) : t.getLast? ≠ some ' ' := by
  obtain ⟨front, c, rfl, hc⟩ := h.exists_concat
  simpa using ne_of_not_isBlank hc (by decide)

end EndsInCell

/-- Of texts that are joined only the last one matters for that. -/
theorem endsInCell_joinWith (between : List Char) {ts : List (List Char)} (hne : ts ≠ [])
    (h : ∀ t ∈ ts, EndsInCell t) : EndsInCell (joinWith between ts) := by
  induction ts with
  | nil => exact absurd rfl hne
  | cons t rest ih =>
    obtain ⟨ht, hrest⟩ := List.forall_mem_cons.mp h
    cases rest with
    | nil => exact ht
    | cons u rest => exact (ih (by simp) hrest).append_left _

/-! ## Section 3: Cells side by side -/

/-- A cell for a column of some width. -/
structure Column where
  width : Nat
  cell : List Char

/-- A cell fits its column. -/
structure Column.Fits (c : Column) : Prop where
  isCell : IsCell c.cell
  length_le : c.cell.length ≤ c.width

/-- The columns of a line: every cell but the last is filled up, with a gap behind it. -/
def sideBySide : List Column → List Char
  | [] => []
  | [c] => c.cell
  | c :: d :: rest => padRight c.width c.cell ++ (gap ++ sideBySide (d :: rest))

/-- Where a column starts: behind the indent and the columns before it with their gaps. -/
def columnStart (widths : List Nat) (j : Nat) : Nat := 2 + ((widths.take j).map (· + 2)).sum

/-- A cell stands in a line behind some characters: two blanks are in front of it, and behind it
    there are two more or nothing. -/
def StandsAt (cell : List Char) (start : Nat) (line : List Char) : Prop :=
  ∃ front back, line = front ++ (cell ++ back) ∧ front.length = start ∧ gap <:+ front ∧
    (back = [] ∨ gap <+: back)

/-- What fills a cell up and the gap behind it are blanks, two at least. -/
theorem padRight_gap (w : Nat) (t rest : List Char) :
    padRight w t ++ (gap ++ rest) = t ++ (List.replicate (w - t.length + 2) ' ' ++ rest) := by
  have hgap : gap = List.replicate 2 ' ' := rfl
  unfold padRight
  rw [hgap, List.append_assoc, ← List.append_assoc (List.replicate _ ' '),
    List.replicate_append_replicate]

/-- Joining all cells, filled up, leaves blanks behind the last one only. -/
theorem exists_joinWith_eq (cs : List Column) :
    ∃ n, joinWith gap (cs.map fun c => padRight c.width c.cell) =
      sideBySide cs ++ List.replicate n ' ' := by
  induction cs with
  | nil => exact ⟨0, rfl⟩
  | cons first rest ih =>
    cases rest with
    | nil => exact ⟨_, rfl⟩
    | cons second rest =>
      obtain ⟨n, hn⟩ := ih
      refine ⟨n, ?_⟩
      simp only [List.map_cons, joinWith, sideBySide, List.append_assoc] at hn ⊢
      rw [hn]

section Columns

variable {cs : List Column} (h : ∀ c ∈ cs, c.Fits)

include h

/-- A line starts with its first cell. -/
theorem exists_cons_sideBySide (hne : cs ≠ []) :
    ∃ c rest, sideBySide cs = c :: rest ∧ ¬ isBlank c := by
  cases cs with
  | nil => exact absurd rfl hne
  | cons first rest =>
    obtain ⟨c, t, hcell, hc⟩ := (h first List.mem_cons_self).isCell.exists_cons
    cases rest with
    | nil => exact ⟨c, t, hcell, hc⟩
    | cons second rest =>
      rw [sideBySide, padRight_gap, hcell]
      exact ⟨c, _, rfl, hc⟩

/-- A line falls into its cells at the gaps. -/
theorem splitGaps_sideBySide (hne : cs ≠ []) : splitGaps (sideBySide cs) = cs.map Column.cell := by
  induction cs with
  | nil => exact absurd rfl hne
  | cons first rest ih =>
    obtain ⟨hfirst, hrest⟩ := List.forall_mem_cons.mp h
    cases rest with
    | nil => exact hfirst.isCell.splitGaps_eq
    | cons second rest =>
      have hsplit := ih hrest (by simp)
      obtain ⟨c, t, hcons, hc⟩ := exists_cons_sideBySide hrest (by simp)
      rw [hcons] at hsplit
      rw [sideBySide, padRight_gap, hcons, hfirst.isCell.splitGaps_append (by omega) hc, hsplit]
      rfl

/-- A line ends with its last cell. -/
theorem endsInCell_sideBySide (hne : cs ≠ []) : EndsInCell (sideBySide cs) := by
  induction cs with
  | nil => exact absurd rfl hne
  | cons first rest ih =>
    obtain ⟨hfirst, hrest⟩ := List.forall_mem_cons.mp h
    cases rest with
    | nil => exact hfirst.isCell.endsInCell
    | cons second rest =>
      rw [sideBySide, ← List.append_assoc]
      exact (ih hrest (by simp)).append_left _

theorem notMem_sideBySide {d : Char} (hd : isBlank d) (hne : d ≠ ' ') : d ∉ sideBySide cs := by
  induction cs with
  | nil => exact List.not_mem_nil
  | cons first rest ih =>
    obtain ⟨hfirst, hrest⟩ := List.forall_mem_cons.mp h
    have hcell := hfirst.isCell.notMem_of_isBlank hd hne
    cases rest with
    | nil => exact hcell
    | cons second rest =>
      rw [sideBySide, padRight_gap]
      simp [hcell, hne, ih hrest]

/-- A cell stands where its column starts, behind any indent that ends with a gap. -/
theorem standsAt_sideBySide {indent : List Char} (hindent : gap <:+ indent) {j : Nat} {c : Column}
    (hj : cs[j]? = some c) :
    StandsAt c.cell (indent.length + ((cs.take j).map fun d => d.width + 2).sum)
      (indent ++ sideBySide cs) := by
  induction cs generalizing indent j with
  | nil => cases hj
  | cons first rest ih =>
    obtain ⟨hfirst, hrest⟩ := List.forall_mem_cons.mp h
    cases j with
    | zero =>
      obtain rfl : first = c := by simpa using hj
      cases rest with
      | nil => exact ⟨indent, [], by simp [sideBySide], by simp, hindent, .inl rfl⟩
      | cons second rest =>
        refine ⟨indent, _, by rw [sideBySide, padRight_gap], by simp, hindent, .inr ?_⟩
        exact ⟨_, rfl⟩
    | succ j =>
      cases rest with
      | nil => cases hj
      | cons second rest =>
        have hend : gap <:+ indent ++ (padRight first.width first.cell ++ gap) :=
          ⟨indent ++ padRight first.width first.cell, by rw [List.append_assoc]⟩
        have hstands := ih hrest hend (by simpa using hj)
        have hlength : (indent ++ (padRight first.width first.cell ++ gap)).length =
            indent.length + (first.width + 2) := by
          have hle := hfirst.length_le
          simp only [padRight, gap, List.length_append, List.length_replicate, List.length_cons,
            List.length_nil]
          omega
        rw [hlength] at hstands
        simpa [sideBySide, Nat.add_assoc] using hstands

end Columns

/-! ## Section 4: What is written in a table -/

/-- Numbers of all kinds are cells. -/
theorem isCell_of_textual {t : List Char} (hne : t ≠ []) (h : ∀ c ∈ t, isTextual c) : IsCell t :=
  .of_forall hne fun c hc => Binary64.not_isBlank_of_isTextual (h c hc)

theorem digitsOf_ne_nil (n : Nat) : Decimal.digitsOf n ≠ [] :=
  List.ne_nil_of_length_pos (Decimal.length_digitsOf_pos n)

theorem intText_ne_nil (i : Int) : intText i ≠ [] := by
  unfold intText
  split
  · simp
  · exact digitsOf_ne_nil _

theorem isCell_intText (i : Int) : IsCell (intText i) :=
  isCell_of_textual (intText_ne_nil i) fun _ => isTextual_of_mem_intText

theorem isCell_toString (i : Int) : IsCell (toString i).toList := by
  rw [toList_toString_int]
  exact isCell_intText i

/-- A label is one word or two. -/
theorem isCell_label (e : Ending) : IsCell e.label.toList := by
  cases e with
  | success => exact .of_all (by decide) (by decide)
  | failed code =>
    have hexit : IsCell "exit".toList := .of_all (by decide) (by decide)
    simpa [Ending.label] using hexit.append_blank (isCell_toString code.toInt)
  | terminated signal =>
    cases signal with
    | none => exact .of_all (by decide) (by decide)
    | some signal =>
      have hsignal : IsCell "signal".toList := .of_all (by decide) (by decide)
      simpa [Ending.label] using hsignal.append_blank (isCell_toString signal.toInt)
  | notStarted reason =>
    have hlaunch : IsCell "launch".toList := .of_all (by decide) (by decide)
    have hfailed : IsCell "failed".toList := .of_all (by decide) (by decide)
    have hlabel : "launch failed".toList = "launch".toList ++ ' ' :: "failed".toList := by decide
    rw [Ending.label, hlabel]
    exact hlaunch.append_blank hfailed

theorem isCell_text (d : Duration) : IsCell d.text :=
  isCell_of_textual (by simp [Duration.text]) fun _ => isTextual_of_mem_text

namespace Row

theorem isCell_headings : ∀ t ∈ headings.toList, IsCell t := by
  have hdata : IsCell "DATA".toList := .of_all (by decide) (by decide)
  have hrate : IsCell "RATE".toList := .of_all (by decide) (by decide)
  rw [forall_mem_toList]
  refine ⟨?_, hdata.append_blank hrate, ?_, ?_, ?_⟩ <;>
    exact .of_all (by decide) (by decide)

theorem isCell_ofInvocation (i : Invocation) : ∀ t ∈ (ofInvocation i).toList, IsCell t := by
  have hnumber : ∀ x : Binary64, IsCell (x.write .plain) := fun x =>
    isCell_of_textual x.write_ne_nil fun _ => Binary64.isTextual_of_mem_write
  rw [forall_mem_toList]
  exact ⟨isCell_intText _, hnumber _, hnumber _, isCell_label i.ending, isCell_text i.duration⟩

/-! ## Section 5: The widths of the columns -/

/-- The cells of one column of a grid. -/
def columnOf (grid : List (List (List Char))) (j : Nat) : List (List Char) :=
  grid.filterMap fun cells => cells[j]?

/-- The columns of a grid are as wide as they have to be: each width is that of a widest cell. -/
def AreWidths (widths : List Nat) (grid : List (List (List Char))) : Prop :=
  ∀ (j w : Nat), widths[j]? = some w → ((columnOf grid j).map List.length).max? = some w

/-- No cell is too wide for its column. -/
theorem AreWidths.length_le {widths : List Nat} {grid : List (List (List Char))}
    (h : AreWidths widths grid) {cells : List (List Char)} (hcells : cells ∈ grid) {j w : Nat}
    {cell : List Char} (hw : widths[j]? = some w) (hcell : cells[j]? = some cell) :
    cell.length ≤ w := by
  obtain ⟨-, hle⟩ := List.max?_eq_some_iff.mp (h j w hw)
  refine hle _ (List.mem_map_of_mem ?_)
  exact List.mem_filterMap.mpr ⟨cells, hcells, hcell⟩

/-- The first line has the widths of its own cells. -/
theorem areWidths_first (row : Row (List Char)) :
    AreWidths (row.map List.length).toList [row.toList] := by
  intro j w hw
  have hmap : (row.map List.length).toList = row.toList.map List.length := rfl
  rw [hmap, List.getElem?_map, Option.map_eq_some_iff] at hw
  obtain ⟨cell, hcell, rfl⟩ := hw
  simp [columnOf, hcell]

/-- One more line widens the columns in which its cells are wider. -/
theorem AreWidths.step {w : Row Nat} {grid : List (List (List Char))}
    (h : AreWidths w.toList grid) (row : Row (List Char)) :
    AreWidths (zipWith max w (row.map List.length)).toList (grid ++ [row.toList]) := by
  intro j n hn
  have hzip : (zipWith max w (row.map List.length)).toList =
      List.zipWith max w.toList (row.toList.map List.length) := rfl
  rw [hzip, List.getElem?_zipWith_eq_some] at hn
  obtain ⟨a, b, ha, hb, rfl⟩ := hn
  rw [List.getElem?_map, Option.map_eq_some_iff] at hb
  obtain ⟨cell, hcell, rfl⟩ := hb
  have hcolumn : columnOf (grid ++ [row.toList]) j = columnOf grid j ++ [cell] := by
    simp [columnOf, hcell]
  obtain ⟨hmem, hle⟩ := List.max?_eq_some_iff.mp (h j a ha)
  rw [hcolumn, List.map_append, List.max?_eq_some_iff]
  constructor
  · rcases Nat.le_total a cell.length with hwider | hwider
    · simp [Nat.max_eq_right hwider]
    · simpa [Nat.max_eq_left hwider] using .inl (by simpa using hmem)
  · intro b hb
    rcases List.mem_append.mp hb with hb | hb
    · exact Nat.le_trans (hle b hb) (Nat.le_max_left _ _)
    · obtain rfl : b = cell.length := by simpa using hb
      exact Nat.le_max_right _ _

/-- A table has the widths of its widest cells, those of the headings among them. -/
theorem areWidths_widths (rows : List (Row (List Char))) :
    AreWidths (widths rows).toList (headings.toList :: rows.map toList) := by
  have hfold : ∀ (rows : List (Row (List Char))) (w : Row Nat) (grid : List (List (List Char))),
      AreWidths w.toList grid →
      AreWidths (rows.foldl (fun w row => zipWith max w (row.map List.length)) w).toList
        (grid ++ rows.map toList) := by
    intro rows
    induction rows with
    | nil =>
      intro w grid h
      simpa using h
    | cons row rest ih =>
      intro w grid h
      simpa using ih _ _ (h.step row)
  exact hfold rows _ [headings.toList] (areWidths_first headings)

/-! ## Section 6: A line -/

/-- A line shows some cells in columns of some widths. -/
structure LineShows (widths : List Nat) (line : List Char) (cells : List (List Char)) : Prop where
  indented : gap <+: line
  /-- Without the indent it falls into the cells at its gaps. -/
  read : splitGaps (line.drop 2) = cells
  aligned : ∀ (j : Nat) (cell : List Char), cells[j]? = some cell →
    StandsAt cell (columnStart widths j) line
  trimmed : line.getLast? ≠ some ' '

/-- The cells of a row in columns of some widths. -/
def columns (w : Row Nat) (row : Row (List Char)) : List Column := (zipWith Column.mk w row).toList

section Line

variable {w : Row Nat} {row : Row (List Char)} (h : ∀ c ∈ columns w row, c.Fits)

include h

theorem joined_padded : (row.padded w).joined = sideBySide (columns w row) := by
  obtain ⟨n, hn⟩ := exists_joinWith_eq (columns w row)
  have hblanks : ∀ c ∈ List.replicate n ' ', isBlank c := by
    intro c hc
    rw [List.eq_of_mem_replicate hc]
    decide
  have hpadded : (row.padded w).toList = (columns w row).map fun c => padRight c.width c.cell := rfl
  rw [joined, hpadded, hn, (endsInCell_sideBySide h (by simp [columns, toList])).trimEnd_eq hblanks]

theorem lineShows : LineShows w.toList (gap ++ (row.padded w).joined) row.toList := by
  have hne : columns w row ≠ [] := by simp [columns, toList]
  have hwidths : w.toList = (columns w row).map Column.width := rfl
  have hcells : row.toList = (columns w row).map Column.cell := rfl
  rw [joined_padded h]
  refine ⟨List.prefix_append _ _, ?_, ?_, ?_⟩
  · rw [hcells]
    exact splitGaps_sideBySide h hne
  · intro j cell hcell
    rw [hcells, List.getElem?_map, Option.map_eq_some_iff] at hcell
    obtain ⟨c, hc, rfl⟩ := hcell
    have hstands := standsAt_sideBySide h List.suffix_rfl hc
    rw [columnStart, hwidths, ← List.map_take, List.map_map]
    exact hstands
  · exact ((endsInCell_sideBySide h hne).append_left gap).getLast?_ne

end Line

end Row

/-! ## Section 7: A table -/

open Row (AreWidths LineShows)

/-- What a table says: the headings, and of each invocation its run, its data rate, its
    distance, how it ended and how long it took. -/
def grid (listed : List Invocation) : List (List (List Char)) :=
  ["RUN", "DATA RATE", "DISTANCE", "STATUS", "TIME"].map String.toList ::
    listed.map fun i =>
      [runText i.point.run, i.point.rate.write .plain, i.point.distance.write .plain,
        i.ending.label.toList, i.duration.text]

/-- Some lines show a grid, all of them in the same five columns. -/
def ShowsGrid (lines : List (List Char)) (grid : List (List (List Char))) : Prop :=
  ∃ widths, widths.length = 5 ∧ AreWidths widths grid ∧ List.Forall₂ (LineShows widths) lines grid

namespace View.Plain

open Row

/-- The rows of a table. -/
def rows (listed : List Invocation) : List (Row (List Char)) :=
  headings :: listed.map ofInvocation

/-- The lines of a table. -/
def tableLines (listed : List Invocation) : List (List Char) :=
  (rows listed).map fun row => gap ++ (row.padded (widths (listed.map ofInvocation))).joined

section Table

variable (listed : List Invocation)

theorem grid_eq_map : grid listed = (rows listed).map toList := by
  simp only [rows, List.map_cons, List.map_map]
  rfl

theorem isCell_rows : ∀ row ∈ rows listed, ∀ t ∈ row.toList, IsCell t := by
  rw [rows, List.forall_mem_cons, List.forall_mem_map]
  exact ⟨isCell_headings, fun i _ => isCell_ofInvocation i⟩

/-- The columns are wide enough for every row. -/
theorem fits_rows : ∀ row ∈ rows listed, ∀ c ∈ columns (widths (listed.map ofInvocation)) row,
    c.Fits := by
  intro row hrow c hc
  generalize hw : widths (listed.map ofInvocation) = w at hc
  have hwidths : w.toList = (columns w row).map Column.width := rfl
  have hcells : row.toList = (columns w row).map Column.cell := rfl
  refine ⟨isCell_rows listed row hrow _ ?_, ?_⟩
  · rw [hcells]
    exact List.mem_map_of_mem hc
  · obtain ⟨j, hj⟩ := List.mem_iff_getElem?.mp hc
    have hwide : AreWidths w.toList (grid listed) := by
      rw [grid_eq_map, ← hw]
      exact areWidths_widths _
    have hmem : row.toList ∈ grid listed := by
      rw [grid_eq_map]
      exact List.mem_map_of_mem hrow
    refine hwide.length_le hmem (j := j) ?_ ?_
    · simp [hwidths, hj]
    · simp [hcells, hj]

theorem notMem_of_mem_tableLines : ∀ line ∈ tableLines listed, '\n' ∉ line := by
  rw [tableLines, List.forall_mem_map]
  intro row hrow
  have hfits := fits_rows listed row hrow
  have hgap : '\n' ∉ gap := by decide
  rw [joined_padded hfits, List.mem_append, not_or]
  exact ⟨hgap, notMem_sideBySide hfits (by decide) (by decide)⟩

theorem endsInCell_of_mem_tableLines : ∀ line ∈ tableLines listed, EndsInCell line := by
  rw [tableLines, List.forall_mem_map]
  intro row hrow
  have hfits := fits_rows listed row hrow
  rw [joined_padded hfits]
  exact (endsInCell_sideBySide hfits (by simp [columns, toList])).append_left gap

/-- The lines of a table show what it says. -/
theorem showsGrid_tableLines : ShowsGrid (tableLines listed) (grid listed) := by
  rw [grid_eq_map]
  refine ⟨(widths (listed.map ofInvocation)).toList, rfl, ?_, ?_⟩
  · exact areWidths_widths _
  · rw [tableLines, List.forall₂_map_left_iff, List.forall₂_map_right_iff, List.forall₂_same]
    exact fun row hrow => lineShows (fits_rows listed row hrow)

/-- A table is its lines, joined: trimming takes the last line break off and no more. -/
theorem table_eq_joinWith (h : listed ≠ []) :
    table listed = joinWith ['\n'] (tableLines listed) := by
  have hlines : headingLine (widths (listed.map ofInvocation)) ::
      listed.map (line (widths (listed.map ofInvocation))) = tableLines listed := by
    simp only [tableLines, rows, List.map_cons, List.map_map]
    rfl
  have hne : tableLines listed ≠ [] := by simp [tableLines, rows]
  have hend := endsInCell_joinWith ['\n'] hne (endsInCell_of_mem_tableLines listed)
  have hbreak : ∀ c ∈ ['\n'], isBlank c := List.forall_mem_singleton.mpr (by decide)
  rw [table, if_neg (by simpa using h)]
  show trimEnd (asLines (headingLine _ :: listed.map (line _))) = _
  rw [hlines, asLines_eq hne, hend.trimEnd_eq hbreak]

/-- So its lines are what it falls into at the line breaks. -/
theorem splitAt_table (h : listed ≠ []) : splitAt '\n' (table listed) = tableLines listed := by
  rw [table_eq_joinWith listed h]
  exact splitAt_joinWith (by simp [tableLines, rows]) (notMem_of_mem_tableLines listed)

end Table

/-- The table of some invocations has one line for the headings and one for each invocation.
    They show what the table says: at the gaps a line falls into its five cells, which start
    in all lines where their columns start, and no line ends with a blank. -/
theorem table_shows_grid (listed : List Invocation) (h : listed ≠ []) :
    (splitAt '\n' (table listed)).length = 1 + listed.length ∧
      ShowsGrid (splitAt '\n' (table listed)) (grid listed) := by
  rw [splitAt_table listed h]
  refine ⟨?_, showsGrid_tableLines listed⟩
  simp only [tableLines, rows, List.length_map, List.length_cons]
  omega

/-- Two invocations whose cells are as wide and as narrow as can be: the least of all runs at
    the least number below zero, which could not be started, and a run that succeeded. -/
def wideAndNarrow : List Invocation :=
  [{ point := ⟨.finite true ⟨1, by decide⟩, .nan, Int64.minValue⟩, command := "sim",
     ending := .notStarted "no  sh", duration := .zero },
   { point := ⟨.zero false, .zero true, 7⟩, command := "sim", ending := .success,
     duration := .zero }]

/-- They take three lines with the headings. -/
theorem table_shows_grid_wideAndNarrow :
    wideAndNarrow ≠ [] ∧ (splitAt '\n' (table wideAndNarrow)).length = 3 ∧
      ShowsGrid (splitAt '\n' (table wideAndNarrow)) (grid wideAndNarrow) := by
  have hne : wideAndNarrow ≠ [] := by simp [wideAndNarrow]
  exact ⟨hne, table_shows_grid wideAndNarrow hne⟩

/-- The status of the first line is as wide as its column, so the gap behind it is two blanks. -/
example : (splitAt '\n' (table
    [⟨⟨.zero false, .zero true, -12⟩, "sim", .terminated none, .zero⟩,
      ⟨⟨.zero false, .zero true, 7⟩, "sim", .success, .zero⟩])).map String.ofList =
    ["  RUN  DATA RATE  DISTANCE  STATUS      TIME",
      "  -12  0          -0        terminated  0.000s",
      "  7    0          -0        ok          0.000s"] := by
  decide +kernel

end View.Plain

end SimSweep
