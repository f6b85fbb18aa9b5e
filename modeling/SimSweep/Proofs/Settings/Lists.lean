import SimSweep.NumberList
import SimSweep.Proofs.Text.Parts

/-! # Lists of values

    What a variable holds is split at its commas, and every part is trimmed. So texts that
    are joined with commas come out one by one, if none of them has a comma in it or is
    blank altogether (`read_intercalate`). What is known of the reading of one value then
    carries over to the reading of a list.
-/

namespace SimSweep

namespace NumberList

/-! ## Section 1: Entries -/

/-- A text that is one entry of a list. -/
structure IsEntry (s : String) : Prop where
  nonblank : ¬ isBlankText s
  unsplit : ',' ∉ s.toList

/-- Entries that are joined with commas are the entries of the list, up to the blanks
    around them. -/
theorem entries_intercalate {ss : List String} (hne : ss ≠ []) (h : ∀ s ∈ ss, IsEntry s) :
    entries (",".intercalate ss).toList = ss.map fun s => trim s.toList := by
  have hunsplit : ∀ cs ∈ ss.map String.toList, ',' ∉ cs := by
    intro cs hcs
    obtain ⟨s, hs, rfl⟩ := List.mem_map.mp hcs
    exact (h s hs).unsplit
  have hsplit : splitAt ',' (",".intercalate ss).toList = ss.map String.toList := by
    rw [String.toList_intercalate, ← joinWith_eq_intercalate]
    exact splitAt_joinWith (by simpa using hne) hunsplit
  unfold entries
  rw [hsplit, List.map_map]
  refine List.filter_eq_self.mpr ?_
  intro entry hentry
  obtain ⟨s, hs, rfl⟩ := List.mem_map.mp hentry
  have hnonblank := (h s hs).nonblank
  unfold isBlankText at hnonblank
  rw [← trim_eq_nil_iff] at hnonblank
  simpa using hnonblank

/-- A list is read entry by entry. -/
theorem read_intercalate {ss : List String} (hne : ss ≠ []) (h : ∀ s ∈ ss, IsEntry s)
    (variableName : String) :
    read variableName (",".intercalate ss) =
      ss.mapM fun s => readEntry variableName (trim s.toList) := by
  unfold read
  rw [entries_intercalate hne h, List.mapM_map]
  rfl

end NumberList

/-! ## Section 2: Readings of lists -/

section MapM

variable {ε ε' α β : Type} {f : α → Except ε β}

theorem mapM_cons_eq_ok_iff {x : α} {rest : List α} {ys : List β} :
    (x :: rest).mapM f = .ok ys ↔
      ∃ y ys', f x = .ok y ∧ rest.mapM f = .ok ys' ∧ ys = y :: ys' := by
  rw [List.mapM_cons]
  cases hx : f x with
  | error e => simp [bind, Except.bind]
  | ok y =>
    cases hrest : rest.mapM f with
    | error e => simp [bind, Except.bind]
    | ok ys' => simp [bind, Except.bind, pure, Except.pure, eq_comm]

/-- If one reading gives what another one gives and takes it only with a property, then
    the same is true of lists. -/
theorem mapM_eq_ok_iff_of_iff {g : α → Except ε' β} {P : β → Prop}
    (h : ∀ x y, f x = .ok y ↔ g x = .ok y ∧ P y) {xs : List α} {ys : List β} :
    xs.mapM f = .ok ys ↔ xs.mapM g = .ok ys ∧ ∀ y ∈ ys, P y := by
  induction xs generalizing ys with
  | nil =>
    show Except.ok [] = Except.ok ys ↔ Except.ok [] = Except.ok ys ∧ _
    constructor
    · intro hnil
      cases hnil
      exact ⟨rfl, by simp⟩
    · rintro ⟨hnil, _⟩
      cases hnil
      rfl
  | cons x rest ih =>
    simp only [mapM_cons_eq_ok_iff, h, ih]
    constructor
    · rintro ⟨y, ys', ⟨hy, hp⟩, ⟨hrest, hps⟩, rfl⟩
      exact ⟨⟨y, ys', hy, hrest, rfl⟩, List.forall_mem_cons.mpr ⟨hp, hps⟩⟩
    · rintro ⟨⟨y, ys', hy, hrest, rfl⟩, hps⟩
      obtain ⟨hp, hps'⟩ := List.forall_mem_cons.mp hps
      exact ⟨y, ys', ⟨hy, hp⟩, ⟨hrest, hps'⟩, rfl⟩

/-- A list that cannot be read has a member that cannot be read. -/
theorem exists_of_mapM_eq_error {xs : List α} {e : ε} (h : xs.mapM f = .error e) :
    ∃ x ∈ xs, f x = .error e := by
  induction xs with
  | nil => cases h
  | cons x rest ih =>
    rw [List.mapM_cons] at h
    cases hx : f x with
    | error e' =>
      rw [hx] at h
      cases h
      exact ⟨x, List.mem_cons_self, hx⟩
    | ok y =>
      rw [hx] at h
      cases hrest : rest.mapM f with
      | error e' =>
        rw [hrest] at h
        cases h
        obtain ⟨x', hx', hread⟩ := ih hrest
        exact ⟨x', List.mem_cons_of_mem x hx', hread⟩
      | ok ys =>
        rw [hrest] at h
        cases h

end MapM

end SimSweep
