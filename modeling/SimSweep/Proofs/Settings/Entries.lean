import Mathlib.Data.List.Forall2
import SimSweep.Proofs.Settings.Lists

/-! # A list read by its entries

    A list is read from the left, and the first entry that is no number decides the failure.
    Since it is split at its commas before anything else is done, putting a comma between
    two texts puts their entries one behind the other, so that the list of both is read by
    reading the one and then the other.

    Main statement: reading is such a homomorphism, its result is that of the entries in
    their order, and blanks around an entry or in the place of one do not count
    (`read_by_entries`).
-/

namespace SimSweep

/-! ## Section 1: The first reading that fails -/

section MapM

variable {ε α β : Type} {f : α → Except ε β}

/-- A list can be read exactly if its members can, and then member by member. -/
theorem mapM_eq_ok_iff_forall₂ {xs : List α} {ys : List β} :
    xs.mapM f = .ok ys ↔ List.Forall₂ (fun x y => f x = .ok y) xs ys := by
  induction xs generalizing ys with
  | nil =>
    rw [List.forall₂_nil_left_iff]
    show Except.ok [] = Except.ok ys ↔ ys = []
    rw [Except.ok.injEq, eq_comm]
  | cons x rest ih =>
    rw [mapM_cons_eq_ok_iff, List.forall₂_cons_left_iff]
    constructor
    · rintro ⟨y, ys', hy, hrest, rfl⟩
      exact ⟨y, ys', hy, ih.mp hrest, rfl⟩
    · rintro ⟨y, ys', hy, hrest, rfl⟩
      exact ⟨y, ys', hy, ih.mpr hrest, rfl⟩

theorem mapM_cons_eq_error_iff {x : α} {rest : List α} {e : ε} :
    (x :: rest).mapM f = .error e ↔
      f x = .error e ∨ (∃ y, f x = .ok y) ∧ rest.mapM f = .error e := by
  rw [List.mapM_cons]
  cases f x with
  | error e' => simp [bind, Except.bind]
  | ok y => cases rest.mapM f <;> simp [bind, Except.bind, pure, Except.pure]

/-- A list fails with what its first member that cannot be read fails with. -/
theorem mapM_eq_error_iff {xs : List α} {e : ε} :
    xs.mapM f = .error e ↔
      ∃ before x after, xs = before ++ x :: after ∧ (∀ b ∈ before, ∃ y, f b = .ok y) ∧
        f x = .error e := by
  induction xs with
  | nil =>
    constructor
    · intro h
      cases h
    · rintro ⟨before, x, after, hsplit, _⟩
      simp at hsplit
  | cons x rest ih =>
    rw [mapM_cons_eq_error_iff, ih]
    constructor
    · rintro (hx | ⟨hx, before, x', after, rfl, hbefore, herror⟩)
      · exact ⟨[], x, rest, rfl, by simp, hx⟩
      · exact ⟨x :: before, x', after, rfl, List.forall_mem_cons.mpr ⟨hx, hbefore⟩, herror⟩
    · rintro ⟨before, x', after, hsplit, hbefore, herror⟩
      cases before with
      | nil =>
        cases hsplit
        exact .inl herror
      | cons b before =>
        cases hsplit
        obtain ⟨hx, hbefore⟩ := List.forall_mem_cons.mp hbefore
        exact .inr ⟨hx, before, x', after, rfl, hbefore, herror⟩

end MapM

namespace NumberList

/-! ## Section 2: The entries of composed texts -/

/-- The entries of a text are the trimmed parts between its commas, without blank ones. -/
theorem entries_eq (cs : List Char) :
    entries cs = ((cs.splitOn ',').map trim).filter fun entry => decide (entry ≠ []) := by
  unfold entries
  rw [splitAt_eq_splitOn]
  congr 1
  funext entry
  cases entry <;> rfl

/-- Every entry stands in the text as it is. -/
theorem infix_of_mem_entries {cs entry : List Char} (h : entry ∈ entries cs) : entry <:+: cs := by
  obtain ⟨part, hpart, rfl⟩ := List.mem_map.mp (List.mem_of_mem_filter h)
  exact (infix_trim part).trans (infix_of_mem_splitAt hpart)

/-- A comma between two texts puts their entries one behind the other. -/
theorem entries_append_cons (front back : List Char) :
    entries (front ++ ',' :: back) = entries front ++ entries back := by
  unfold entries
  rw [splitAt_append_cons, List.map_append, List.filter_append]

/-- A text without commas is one entry at most. -/
theorem entries_of_notMem {cs : List Char} (h : ',' ∉ cs) :
    entries cs = [trim cs].filter fun entry => !entry.isEmpty := by
  unfold entries
  rw [splitAt_of_notMem h]
  rfl

theorem comma_notMem_of_blank {w : List Char} (hw : ∀ c ∈ w, isBlank c) : ',' ∉ w := by
  intro h
  cases hw ',' h

/-- Blanks alone are no entry. -/
theorem entries_of_blank {w : List Char} (hw : ∀ c ∈ w, isBlank c) : entries w = [] := by
  rw [entries_of_notMem (comma_notMem_of_blank hw),
    (trim_eq_nil_iff w).mpr (List.all_eq_true.mpr hw)]
  rfl

/-- Blanks in front of a text belong to its first part, where they are trimmed. -/
theorem entries_append_left {w : List Char} (hw : ∀ c ∈ w, isBlank c) (cs : List Char) :
    entries (w ++ cs) = entries cs := by
  have hpart : ∀ part : List Char, ',' ∉ part → entries (w ++ part) = entries part := by
    intro part hpart
    have hboth : ',' ∉ w ++ part := by simp [comma_notMem_of_blank hw, hpart]
    rw [entries_of_notMem hboth, entries_of_notMem hpart, trim_append_left hw]
  by_cases hcomma : ',' ∈ cs
  · obtain ⟨first, rest, rfl, hfirst⟩ := List.eq_append_cons_of_mem hcomma
    rw [← List.append_assoc, entries_append_cons, entries_append_cons, hpart first hfirst]
  · exact hpart cs hcomma

/-- Blanks behind a text belong to its last part. -/
theorem entries_append_right {w : List Char} (hw : ∀ c ∈ w, isBlank c) (cs : List Char) :
    entries (cs ++ w) = entries cs := by
  have hpart : ∀ part : List Char, ',' ∉ part → entries (part ++ w) = entries part := by
    intro part hpart
    have hboth : ',' ∉ part ++ w := by simp [comma_notMem_of_blank hw, hpart]
    rw [entries_of_notMem hboth, entries_of_notMem hpart, trim_append_right hw]
  by_cases hcomma : ',' ∈ cs
  · -- the last comma is the first from behind
    obtain ⟨last, rest, hsplit, hlast⟩ :=
      List.eq_append_cons_of_mem (List.mem_reverse.mpr hcomma)
    have hcs : cs = rest.reverse ++ ',' :: last.reverse := by
      rw [← List.reverse_reverse cs, hsplit]
      simp
    rw [hcs, List.append_assoc, List.cons_append, entries_append_cons, entries_append_cons,
      hpart last.reverse (by simpa using hlast)]
  · exact hpart cs hcomma

/-- A text has the entries that it has when it is trimmed. -/
theorem entries_trim (cs : List Char) : entries (trim cs) = entries cs := by
  obtain ⟨front, back, hfront, hback, hcs⟩ := exists_eq_trim cs
  calc entries (trim cs) = entries (trim cs ++ back) := (entries_append_right hback _).symm
    _ = entries (front ++ (trim cs ++ back)) := (entries_append_left hfront _).symm
    _ = entries cs := by rw [← hcs]

/-- The entries of texts with commas between them. -/
theorem entries_joinWith (ts : List (List Char)) :
    entries (joinWith [','] ts) = ts.flatMap entries := by
  cases ts with
  | nil => rfl
  | cons t rest =>
    unfold entries
    rw [splitAt_joinWith_flatMap (by simp), List.map_flatMap, List.filter_flatMap]

/-- Texts with commas between them have the entries that they have when each is trimmed and
    the blank ones are left out. -/
theorem entries_tidied (parts : List String) :
    entries (",".intercalate ((parts.map trimmed).filter fun p => !isBlankText p)).toList =
      entries (",".intercalate parts).toList := by
  rw [String.toList_intercalate, String.toList_intercalate]
  show entries (List.intercalate [','] _) = entries (List.intercalate [','] _)
  rw [← joinWith_eq_intercalate, ← joinWith_eq_intercalate, entries_joinWith, entries_joinWith]
  induction parts with
  | nil => rfl
  | cons p rest ih =>
    have htrim : entries (trimmed p).toList = entries p.toList := by
      rw [trimmed, String.toList_ofList, entries_trim]
    rw [List.map_cons, List.filter_cons]
    split
    · simp only [List.map_cons, List.flatMap_cons, ih, htrim]
    · next hblank =>
      -- a blank text has no entries, so none are lost
      have hall : ∀ c ∈ (trimmed p).toList, isBlank c := by
        simpa [isBlankText] using hblank
      rw [entries_of_blank hall] at htrim
      simp only [List.map_cons, List.flatMap_cons, ih, ← htrim, List.nil_append]

/-! ## Section 3: Reading -/

theorem readEntry_eq_ok_iff {variableName : String} {entry : List Char} {x : Binary64} :
    readEntry variableName entry = .ok x ↔ Binary64.read? entry = some x := by
  unfold readEntry
  cases Binary64.read? entry <;> simp

theorem readEntry_eq_error_iff {variableName : String} {entry : List Char} {f : Failure} :
    readEntry variableName entry = .error f ↔
      Binary64.read? entry = none ∧
        f = .config (.badListEntry variableName (String.ofList entry)) := by
  unfold readEntry
  cases Binary64.read? entry <;> simp [eq_comm]

/-- A list of two texts with a comma between them is read one text after the other. -/
theorem read_append (variableName a b : String) :
    read variableName (a ++ "," ++ b) = do
      let xs ← read variableName a
      let ys ← read variableName b
      return xs ++ ys := by
  have htext : (a ++ "," ++ b).toList = a.toList ++ ',' :: b.toList := by simp
  unfold read
  rw [htext, entries_append_cons, List.mapM_append]

theorem read_eq_ok_iff {variableName value : String} {xs : List Binary64} :
    read variableName value = .ok xs ↔
      List.Forall₂ (fun entry x => Binary64.read? entry = some x) (entries value.toList) xs := by
  unfold read
  rw [mapM_eq_ok_iff_forall₂]
  simp only [readEntry_eq_ok_iff]

theorem read_eq_error_iff {variableName value : String} {f : Failure} :
    read variableName value = .error f ↔
      ∃ before entry after, entries value.toList = before ++ entry :: after ∧
        (∀ b ∈ before, ∃ x, Binary64.read? b = some x) ∧ Binary64.read? entry = none ∧
        f = .config (.badListEntry variableName (String.ofList entry)) := by
  unfold read
  rw [mapM_eq_error_iff]
  simp only [readEntry_eq_ok_iff, readEntry_eq_error_iff]

/-- Reading is a homomorphism: a list of two texts with a comma between them is read by reading
    the one, then the other, and putting the results together. So it gives one number for each
    of its trimmed parts that are not blank, in their order, exactly if each of them is a number;
    otherwise the leftmost that is none is named together with the variable. Trimming the
    texts of which a list consists, and leaving out blank ones, does not change what is read. -/
theorem read_by_entries (variableName : String) :
    (∀ a b, read variableName (a ++ "," ++ b) = do
      let xs ← read variableName a
      let ys ← read variableName b
      return xs ++ ys) ∧
    (∀ value : String,
      let parts := ((value.toList.splitOn ',').map trim).filter fun part => decide (part ≠ [])
      (∀ xs, read variableName value = .ok xs ↔
        List.Forall₂ (fun part x => Binary64.read? part = some x) parts xs) ∧
      (∀ f, read variableName value = .error f ↔
        ∃ before part after, parts = before ++ part :: after ∧
          (∀ b ∈ before, ∃ x, Binary64.read? b = some x) ∧ Binary64.read? part = none ∧
          f = .config (.badListEntry variableName (String.ofList part)))) ∧
    (∀ parts : List String, read variableName (",".intercalate parts) =
      read variableName (",".intercalate ((parts.map trimmed).filter fun p => !isBlankText p))) := by
  refine ⟨read_append variableName, ?_, ?_⟩
  · intro value parts
    have hparts : entries value.toList = parts := entries_eq value.toList
    rw [← hparts]
    exact ⟨fun xs => read_eq_ok_iff, fun f => read_eq_error_iff⟩
  · intro parts
    unfold read
    rw [entries_tidied]

/-- Empty parts and blanks of any kind are passed over on the way to the first fault. -/
example : read "X" " 1,,\u3000,2.5 ,\tten,x" = .error (.config (.badListEntry "X" "ten")) := by
  decide +kernel

end NumberList

end SimSweep
