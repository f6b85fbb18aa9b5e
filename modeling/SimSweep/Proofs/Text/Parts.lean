import Mathlib.Data.List.TakeWhile
import SimSweep.Text.Blank
import SimSweep.Text.Layout

/-! # Taking texts apart

    A text that is split at a character falls into the parts between its occurrences, so
    splitting a text that was put together from others with that character between them is
    splitting the others one by one (`splitAt_append_cons`), and parts without the character
    come out as they went in (`splitAt_joinWith`). Trimming takes blanks off the ends of a
    text and stops at the first character that is none.
-/

namespace SimSweep

/-! ## Section 1: Splitting -/

section Splitting

variable (separator : Char)

theorem splitAt_eq_splitOn (cs : List Char) : splitAt separator cs = cs.splitOn separator := by
  unfold List.splitOn
  induction cs with
  | nil => rfl
  | cons c rest ih =>
    rw [splitAt, List.splitOnP_cons_eq_if_modifyHead, ih]
    by_cases hc : c = separator
    · simp [hc]
    · -- there is a first part, which the character joins
      obtain ⟨part, parts, hparts⟩ :=
        List.exists_cons_of_ne_nil (List.splitOnP_ne_nil (· == separator) rest)
      simp [hc, hparts]

theorem splitAt_ne_nil (cs : List Char) : splitAt separator cs ≠ [] := by
  rw [splitAt_eq_splitOn]
  exact List.splitOnP_ne_nil _ cs

variable {separator}

theorem splitAt_of_notMem {cs : List Char} (h : separator ∉ cs) : splitAt separator cs = [cs] := by
  rw [splitAt_eq_splitOn]
  refine List.splitOnP_eq_singleton ?_
  intro c hc
  have hne : c ≠ separator := fun heq => h (heq ▸ hc)
  simpa using hne

/-- The parts of two texts with the separator between them are those of the one and then
    those of the other. -/
theorem splitAt_append_cons (front back : List Char) :
    splitAt separator (front ++ separator :: back) =
      splitAt separator front ++ splitAt separator back := by
  induction front with
  | nil => simp [splitAt]
  | cons c rest ih =>
    rw [List.cons_append, splitAt, splitAt, ih]
    by_cases hc : c = separator
    · simp [hc]
    · obtain ⟨part, parts, hparts⟩ := List.exists_cons_of_ne_nil (splitAt_ne_nil separator rest)
      simp [hc, hparts]

/-! ## Section 2: Joining -/

/-- In front of all texts but the first stands the one between them. -/
theorem joinWith_cons (between t : List Char) (ts : List (List Char)) :
    joinWith between (t :: ts) = t ++ ts.flatMap (between ++ ·) := by
  induction ts generalizing t with
  | nil => simp [joinWith]
  | cons u rest ih => rw [joinWith, ih, List.flatMap_cons, List.append_assoc, List.append_assoc]

/-- Texts with one in front of each. -/
theorem flatMap_eq_joinWith (between : List Char) {ts : List (List Char)} (hne : ts ≠ []) :
    ts.flatMap (between ++ ·) = between ++ joinWith between ts := by
  obtain ⟨t, rest, rfl⟩ := List.exists_cons_of_ne_nil hne
  rw [List.flatMap_cons, joinWith_cons, List.append_assoc]

/-- Joined texts have the characters of the texts and of what stands between them. -/
theorem mem_of_mem_joinWith {between : List Char} {ts : List (List Char)} {c : Char}
    (h : c ∈ joinWith between ts) : c ∈ between ∨ ∃ t ∈ ts, c ∈ t := by
  cases ts with
  | nil => cases h
  | cons t rest =>
    rw [joinWith_cons, List.mem_append, List.mem_flatMap] at h
    rcases h with hc | ⟨u, hu, hc⟩
    · exact .inr ⟨t, List.mem_cons_self, hc⟩
    · exact (List.mem_append.mp hc).imp_right fun hc => ⟨u, List.mem_cons_of_mem t hu, hc⟩

/-- Every text is a part of what it is joined to. -/
theorem infix_joinWith (between : List Char) {ts : List (List Char)} {t : List Char} (h : t ∈ ts) :
    t <:+: joinWith between ts := by
  cases ts with
  | nil => cases h
  | cons u rest =>
    rw [joinWith_cons]
    rcases List.mem_cons.mp h with rfl | h
    · exact (List.prefix_append _ _).isInfix
    · obtain ⟨before, after, rfl⟩ := List.append_of_mem h
      refine ⟨u ++ before.flatMap (between ++ ·) ++ between, after.flatMap (between ++ ·), ?_⟩
      simp only [List.flatMap_append, List.flatMap_cons, List.append_assoc]

/-- Lines end in a line break, the last of them too. -/
theorem asLines_eq {ts : List (List Char)} (hne : ts ≠ []) :
    asLines ts = joinWith ['\n'] ts ++ ['\n'] := by
  induction ts with
  | nil => exact absurd rfl hne
  | cons t rest ih =>
    cases rest with
    | nil => simp [asLines, joinWith]
    | cons u rest =>
      have hrest := ih (by simp)
      unfold asLines at hrest ⊢
      rw [List.flatMap_cons, hrest]
      simp [joinWith]

theorem joinWith_eq_intercalate (between : List Char) (ts : List (List Char)) :
    joinWith between ts = between.intercalate ts := by
  induction ts with
  | nil => rfl
  | cons t rest ih =>
    cases rest with
    | nil => simp [joinWith]
    | cons u rest => simp [joinWith, ih, List.intercalate, List.append_assoc]

theorem joinWith_splitAt (cs : List Char) : joinWith [separator] (splitAt separator cs) = cs := by
  rw [joinWith_eq_intercalate, splitAt_eq_splitOn, List.intercalate_splitOn]

theorem infix_of_mem_splitAt {cs part : List Char} (h : part ∈ splitAt separator cs) :
    part <:+: cs := by
  have hpart := infix_joinWith [separator] h
  rwa [joinWith_splitAt] at hpart

/-- Texts that were joined with the separator are split one by one. -/
theorem splitAt_joinWith_flatMap {ts : List (List Char)} (hne : ts ≠ []) :
    splitAt separator (joinWith [separator] ts) = ts.flatMap (splitAt separator) := by
  induction ts with
  | nil => exact absurd rfl hne
  | cons t rest ih =>
    cases rest with
    | nil => simp [joinWith]
    | cons u rest =>
      have hrest := ih (by simp)
      simp only [joinWith, List.append_assoc, List.singleton_append]
      rw [splitAt_append_cons, hrest]
      simp only [List.flatMap_cons]

/-- Texts without the separator come out of a split as they were joined. -/
theorem splitAt_joinWith {ts : List (List Char)} (hne : ts ≠ []) (h : ∀ t ∈ ts, separator ∉ t) :
    splitAt separator (joinWith [separator] ts) = ts := by
  rw [joinWith_eq_intercalate, splitAt_eq_splitOn]
  exact List.splitOn_intercalate separator h hne

end Splitting

/-! ## Section 3: Trimming -/

/-- Nothing is left of a text by trimming exactly if it is blank. -/
theorem trim_eq_nil_iff (cs : List Char) : trim cs = [] ↔ cs.all isBlank := by
  unfold trim trimEnd trimStart
  rw [List.reverse_eq_nil_iff, List.dropWhile_eq_nil_iff, List.all_eq_true]
  constructor
  · intro h c hc
    rw [← List.takeWhile_append_dropWhile (p := isBlank) (l := cs)] at hc
    rcases List.mem_append.mp hc with hfront | hback
    · exact List.mem_takeWhile_imp hfront
    · exact h c (List.mem_reverse.mpr hback)
  · intro h c hc
    exact h c ((List.dropWhile_sublist isBlank).mem (List.mem_reverse.mp hc))

/-- Only blanks are trimmed. -/
theorem mem_trimEnd {t : List Char} {c : Char} (hc : c ∈ t) (h : ¬ isBlank c) : c ∈ trimEnd t := by
  unfold trimEnd
  rw [List.mem_reverse]
  have hsplit := List.takeWhile_append_dropWhile (p := isBlank) (l := t.reverse)
  have hmem : c ∈ t.reverse.takeWhile isBlank ++ t.reverse.dropWhile isBlank := by
    rw [hsplit, List.mem_reverse]
    exact hc
  rcases List.mem_append.mp hmem with htake | hdrop
  · exact absurd (List.all_eq_true.mp List.all_takeWhile c htake) h
  · exact hdrop

theorem mem_of_mem_trimEnd {t : List Char} {c : Char} (h : c ∈ trimEnd t) : c ∈ t := by
  unfold trimEnd at h
  rw [List.mem_reverse] at h
  exact List.mem_reverse.mp ((List.dropWhile_sublist isBlank).mem h)

/-- Trimming does not go beyond a character that is not blank. -/
theorem trimEnd_append {t : List Char} (h : ∃ c ∈ t, ¬ isBlank c) (s : List Char) :
    trimEnd (s ++ t) = s ++ trimEnd t := by
  obtain ⟨c, hc, hblank⟩ := h
  have hne : t.reverse.dropWhile isBlank ≠ [] := by
    rw [ne_eq, List.dropWhile_eq_nil_iff]
    intro hall
    exact hblank (hall c (List.mem_reverse.mpr hc))
  unfold trimEnd
  rw [List.reverse_append, List.dropWhile_append,
    if_neg (by simpa using hne), List.reverse_append, List.reverse_reverse]

/-- Blanks in front do not count. -/
theorem trim_append_left {w : List Char} (hw : ∀ c ∈ w, isBlank c) (t : List Char) :
    trim (w ++ t) = trim t := by
  unfold trim trimStart
  rw [List.dropWhile_append_of_pos hw]

theorem trimEnd_append_right {w : List Char} (hw : ∀ c ∈ w, isBlank c) (t : List Char) :
    trimEnd (t ++ w) = trimEnd t := by
  unfold trimEnd
  rw [List.reverse_append,
    List.dropWhile_append_of_pos fun c hc => hw c (List.mem_reverse.mp hc)]

/-- Nor do blanks behind. -/
theorem trim_append_right {w : List Char} (hw : ∀ c ∈ w, isBlank c) (t : List Char) :
    trim (t ++ w) = trim t := by
  by_cases ht : trimStart t = []
  · -- then all of it is blank
    have hall : ∀ c ∈ t, isBlank c := List.dropWhile_eq_nil_iff.mp ht
    rw [trim_append_left hall]
    have hnil : ∀ {u : List Char}, (∀ c ∈ u, isBlank c) → trim u = [] := fun h =>
      (trim_eq_nil_iff _).mpr (List.all_eq_true.mpr h)
    rw [hnil hw, hnil hall]
  · have hstart : trimStart (t ++ w) = trimStart t ++ w := by
      unfold trimStart at ht ⊢
      rw [List.dropWhile_append, if_neg (by simpa using ht)]
    unfold trim
    rw [hstart, trimEnd_append_right hw]

/-- A text without blanks is left as it is. -/
theorem trim_eq_self {t : List Char} (h : ∀ c ∈ t, ¬ isBlank c) : trim t = t := by
  have hstart : ∀ {u : List Char}, (∀ c ∈ u, ¬ isBlank c) → u.dropWhile isBlank = u := by
    intro u hu
    cases u with
    | nil => rfl
    | cons c rest => exact List.dropWhile_cons_of_neg (hu c List.mem_cons_self)
  have hend : ∀ c ∈ t.reverse, ¬ isBlank c := fun c hc => h c (List.mem_reverse.mp hc)
  unfold trim trimStart trimEnd
  rw [hstart h, hstart hend, List.reverse_reverse]

/-- What is trimmed off a text are blanks. -/
theorem exists_eq_trim (t : List Char) :
    ∃ front back, (∀ c ∈ front, isBlank c) ∧ (∀ c ∈ back, isBlank c) ∧
      t = front ++ (trim t ++ back) := by
  refine ⟨t.takeWhile isBlank, ((trimStart t).reverse.takeWhile isBlank).reverse, ?_, ?_, ?_⟩
  · intro c hc
    exact List.mem_takeWhile_imp hc
  · intro c hc
    exact List.mem_takeWhile_imp (List.mem_reverse.mp hc)
  · have hend : trim t ++ ((trimStart t).reverse.takeWhile isBlank).reverse = trimStart t := by
      unfold trim trimEnd
      rw [← List.reverse_append, List.takeWhile_append_dropWhile, List.reverse_reverse]
    rw [hend]
    exact List.takeWhile_append_dropWhile.symm

theorem infix_trim (t : List Char) : trim t <:+: t := by
  obtain ⟨front, back, _, _, ht⟩ := exists_eq_trim t
  exact ⟨front, back, by rw [List.append_assoc, ← ht]⟩

end SimSweep
