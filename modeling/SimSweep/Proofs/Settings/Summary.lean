import SimSweep.Proofs.Number.RoundTrip
import SimSweep.Proofs.Settings.Entries
import SimSweep.Proofs.Settings.Listing

/-! # Lists of numbers in the summary

    The summary of the settings shows a list of numbers between brackets, with a comma and a
    blank between neighbours. A variable of the environment may hold a list with commas alone
    between its entries, but blanks around an entry do not count and an empty list has no
    entry, so what is shown can be set as it stands.

    Main statement: the text between the brackets is read as the list that is shown, down to
    the sign of zero (`read_shown`).
-/

namespace SimSweep

/-! ## Section 1: Shown lists -/

namespace NumberList

/-- A numeral is one entry, as it stands. -/
theorem entries_write (x : Binary64) : entries (x.write .plain) = [x.write .plain] := by
  have hcomma : ',' ∉ x.write .plain := by
    intro h
    cases Binary64.isTextual_of_mem_write h
  have htrim : trim (x.write .plain) = x.write .plain :=
    trim_eq_self fun c hc => Binary64.not_isBlank_of_isTextual (Binary64.isTextual_of_mem_write hc)
  rw [entries_of_notMem hcomma, htrim]
  simp [Binary64.write_ne_nil]

/-- The entries of a shown list are the numerals of its numbers. -/
theorem entries_text (xs : List Binary64) : entries (text xs) = xs.map (Binary64.write .plain) := by
  induction xs with
  | nil => rfl
  | cons x rest ih =>
    have hblank : ∀ c ∈ [' '], isBlank c := List.forall_mem_singleton.mpr (by decide)
    cases rest with
    | nil => exact entries_write x
    | cons y rest =>
      -- the blank behind the comma is in front of the next numeral
      have hcons : text (x :: y :: rest) = x.write .plain ++ ',' :: ([' '] ++ text (y :: rest)) :=
        List.append_assoc ..
      rw [hcons, entries_append_cons, entries_write, entries_append_left hblank, ih]
      rfl

/-- A shown list is read as the list. -/
theorem read_text (variableName : String) (xs : List Binary64) :
    read variableName (String.ofList (text xs)) = .ok xs := by
  rw [read_eq_ok_iff, String.toList_ofList, entries_text, List.forall₂_map_left_iff,
    List.forall₂_same]
  exact fun x _ => Binary64.read?_write x

end NumberList

/-! ## Section 2: The lines that show them -/

/-- The title of a quantity in the summary. -/
def Quantity.title : Quantity → String
  | .dataRate => "Data rates"
  | .distance => "Distances"

namespace Settings

/-- A shown list stays on its line. -/
theorem newline_notMem_bracketed (xs : List Binary64) : '\n' ∉ bracketed xs := by
  have htext : '\n' ∉ NumberList.text xs := by
    intro h
    rcases mem_of_mem_joinWith h with h | ⟨t, ht, h⟩
    · exact absurd h (by decide)
    · obtain ⟨x, _, rfl⟩ := List.mem_map.mp ht
      cases Binary64.isTextual_of_mem_write h
  simpa [bracketed] using htext

/-- The summary starts with the lines of the two lists. -/
theorem exists_splitAt_summary (s : Settings) :
    ∃ rest, splitAt '\n' s.summary.toList =
      summaryLine Quantity.dataRate.title (bracketed s.rates) ::
        summaryLine Quantity.distance.title (bracketed s.distances) :: rest := by
  have hline : ∀ (q : Quantity) (xs : List Binary64),
      splitAt '\n' (summaryLine q.title (bracketed xs)) = [summaryLine q.title (bracketed xs)] := by
    intro q xs
    have htitle : '\n' ∉ q.title.toList := by cases q <;> decide
    refine splitAt_of_notMem ?_
    simpa [summaryLine, htitle] using newline_notMem_bracketed xs
  unfold summary
  rw [String.toList_ofList, splitAt_joinWith_flatMap (by simp [summaryLines])]
  unfold summaryLines
  rw [List.flatMap_cons, List.flatMap_cons]
  exact ⟨_, congrArg₂ (· ++ ·) (hline .dataRate _) (congrArg (· ++ _) (hline .distance _))⟩

/-- The text between the brackets in the first line of the summary with the title of a quantity
    is read as the values of this quantity, whatever variable it is set in. All NaNs are one
    value here. -/
theorem read_shown (s : Settings) (q : Quantity) (variableName : String) :
    ∃ shown : String,
      (splitAt '\n' s.summary.toList).find? (fun line => (q.title ++ ": ").toList.isPrefixOf line) =
        some ((q.title ++ ": [").toList ++ shown.toList ++ [']']) ∧
      NumberList.read variableName shown = .ok (s.valuesOf q) := by
  refine ⟨String.ofList (NumberList.text (s.valuesOf q)), ?_, NumberList.read_text _ _⟩
  obtain ⟨rest, hlines⟩ := exists_splitAt_summary s
  rw [hlines, String.toList_ofList]
  cases q with
  | dataRate => rfl
  | distance => rfl

end Settings

end SimSweep
