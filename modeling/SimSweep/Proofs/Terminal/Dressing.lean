import Mathlib.Data.List.Basic
import SimSweep.Terminal.Strip

/-! # Dressed texts

    A text is dressed by putting style sequences in front of its characters and behind
    its end. A text without escape characters of its own can be had back: stripping
    takes off all that was put on (`Dressed.strip_eq`). Dressed pieces make up a dressed
    whole, and painting a piece dresses it, so that a text which is composed of pieces
    need not be scanned again.
-/

namespace SimSweep.Terminal

/-! ## Section 1: Style sequences -/

/-- A style sequence: digits and semicolons between an opening bracket and the letter. -/
def IsSequence (s : List Char) : Prop :=
  ∃ parameters, (∀ c ∈ parameters, isParameter c) ∧ s = escape :: '[' :: (parameters ++ ['m'])

/-- A style sequence is recognized whatever comes after it. -/
theorem afterSequence?_sequence {s : List Char} (h : IsSequence s) (rest : List Char) :
    afterSequence? (s ++ rest) = some rest := by
  obtain ⟨parameters, hparameters, rfl⟩ := h
  have hdrop : (parameters ++ 'm' :: rest).dropWhile isParameter = 'm' :: rest := by
    rw [List.dropWhile_append_of_pos hparameters]
    rfl
  have hshape : (escape :: '[' :: (parameters ++ ['m'])) ++ rest =
      '\x1b' :: '[' :: (parameters ++ 'm' :: rest) := by
    simp [escape]
  rw [hshape]
  simp only [afterSequence?, hdrop]

/-- Every style sequence starts with an escape character. -/
theorem afterSequence?_of_ne {c : Char} (h : c ≠ escape) (rest : List Char) :
    afterSequence? (c :: rest) = none := by
  unfold afterSequence?
  split
  · next heq =>
    cases heq
    exact absurd rfl h
  · rfl

/-- Stripping takes a style sequence off the front. -/
theorem strip_sequence {s : List Char} (h : IsSequence s) (rest : List Char) :
    strip (s ++ rest) = strip rest := by
  rw [strip]
  split
  · next heq =>
    rw [afterSequence?_sequence h] at heq
    cases heq
    rfl
  · next heq =>
    rw [afterSequence?_sequence h] at heq
    cases heq

/-- Stripping leaves any other character where it is. -/
@[simp] theorem strip_cons_of_ne {c : Char} (h : c ≠ escape) (rest : List Char) :
    strip (c :: rest) = c :: strip rest := by
  rw [strip]
  split
  · next heq =>
    rw [afterSequence?_of_ne h] at heq
    cases heq
  · rfl

theorem isSequence_reset : IsSequence reset := by
  refine ⟨['0'], fun c hc => ?_, rfl⟩
  rw [List.mem_singleton.mp hc]
  rfl

theorem isParameter_of_isDigit {c : Char} (h : c.isDigit) : isParameter c := by
  unfold isParameter
  rw [h, Bool.true_or]

theorem isParameter_of_mem_toString {n : Nat} {c : Char} (h : c ∈ (toString n).toList) :
    isParameter c := by
  rw [Nat.toString_eq_repr, Nat.toList_repr] at h
  exact isParameter_of_isDigit (Nat.isDigit_of_mem_toDigits (by decide) (by decide) h)

/-- Numbers between semicolons are parameters. -/
theorem isParameter_of_mem_intersperse :
    ∀ (codes : List Nat), ∀ part ∈ (codes.map fun n => (toString n).toList).intersperse [';'],
      ∀ c ∈ part, isParameter c := by
  intro codes
  induction codes with
  | nil => simp
  | cons n rest ih =>
    cases rest with
    | nil =>
      intro part hpart c hc
      rw [List.mem_singleton.mp hpart] at hc
      exact isParameter_of_mem_toString hc
    | cons n' rest =>
      intro part hpart c hc
      simp only [List.map_cons, List.intersperse_cons_cons, List.mem_cons] at hpart ih
      rcases hpart with rfl | rfl | hpart
      · exact isParameter_of_mem_toString hc
      · rw [List.mem_singleton.mp hc]
        rfl
      · exact ih part hpart c hc

/-- Whatever style is selected, it is selected by a style sequence. -/
theorem isSequence_opening (s : Style) : IsSequence (opening s) := by
  refine ⟨(";".intercalate (s.codes.map toString)).toList, ?_, by simp [opening]⟩
  intro c hc
  rw [String.toList_intercalate, List.map_map] at hc
  obtain ⟨part, hpart, hc⟩ := List.mem_flatten.mp hc
  exact isParameter_of_mem_intersperse s.codes part hpart c hc

/-! ## Section 2: Dressing a text -/

/-- The first text is the second one with style sequences put in. -/
inductive Dressed : List Char → List Char → Prop where
  | nil : Dressed [] []
  | char {c : Char} {u t : List Char} : c ≠ escape → Dressed u t → Dressed (c :: u) (c :: t)
  | sequence {s u t : List Char} : IsSequence s → Dressed u t → Dressed (s ++ u) t

namespace Dressed

variable {u t u' t' : List Char}

/-- Stripping a dressed text gives the text. -/
theorem strip_eq (h : Dressed u t) : strip u = t := by
  induction h with
  | nil =>
    rw [strip]
    rfl
  | char hc _ ih => rw [strip_cons_of_ne hc, ih]
  | sequence hs _ ih => rw [strip_sequence hs, ih]

/-- A text that is dressed has no escape characters of its own. -/
theorem escape_notMem (h : Dressed u t) : escape ∉ t := by
  induction h with
  | nil => exact List.not_mem_nil
  | char hc _ ih =>
    rw [List.mem_cons, not_or]
    exact ⟨Ne.symm hc, ih⟩
  | sequence _ _ ih => exact ih

/-- Dressed texts are dressed when they follow one another. -/
theorem append (h : Dressed u t) (h' : Dressed u' t') : Dressed (u ++ u') (t ++ t') := by
  induction h with
  | nil => exact h'
  | char hc _ ih => exact .char hc ih
  | sequence hs _ ih =>
    rw [List.append_assoc]
    exact .sequence hs ih

/-- A text without escape characters goes undressed. -/
theorem refl : ∀ {t : List Char}, escape ∉ t → Dressed t t := by
  intro t
  induction t with
  | nil =>
    intro _
    exact .nil
  | cons c t ih =>
    intro h
    rw [List.mem_cons, not_or] at h
    exact .char (Ne.symm h.1) (ih h.2)

end Dressed

/-! ## Section 3: Painting -/

/-- Nothing is repeated in a text without escape characters. -/
theorem reopen_eq (o : List Char) : ∀ {t : List Char}, escape ∉ t → reopen o t = t := by
  intro t
  induction t with
  | nil =>
    intro _
    rfl
  | cons c t ih =>
    intro h
    rw [List.mem_cons, not_or] at h
    unfold reopen
    split
    · next heq =>
      cases heq
      exact absurd rfl h.1
    · next heq =>
      cases heq
      rw [ih h.2]
    · next heq => cases heq

/-- Painting a text without escape characters dresses it. -/
theorem dressed_paint (emits : Bool) (s : Style) {t : List Char} (h : escape ∉ t) :
    Dressed (paint emits s t) t := by
  unfold paint
  split
  · have hend : Dressed (t ++ reset) (t ++ []) :=
      (Dressed.refl h).append (by simpa using Dressed.sequence isSequence_reset .nil)
    rw [reopen_eq _ h, List.append_assoc]
    rw [List.append_nil] at hend
    exact .sequence (isSequence_opening s) hend
  · exact .refl h

/-- A text without a style is not painted. -/
@[simp] theorem paint_plain (emits : Bool) (t : List Char) : paint emits .plain t = t := by
  unfold paint
  rw [if_neg fun h => h.2 rfl]

/-- Where no escape sequences are taken, painting does nothing. -/
@[simp] theorem paint_false (s : Style) (t : List Char) : paint false s t = t := by
  simp [paint]

end SimSweep.Terminal
