import SimSweep.Log.Logger

/-! # What is added to an entry

    Notes and the session of a logger add fields to an entry and leave its level and its
    message alone. Under every other key than that of the session an entry has what its
    notes have set.
-/

namespace SimSweep.Log

theorem foldl_add_level_message (notes : List Note) (e : Entry) :
    (notes.foldl Entry.add e).level = e.level ∧ (notes.foldl Entry.add e).message = e.message := by
  induction notes generalizing e with
  | nil => exact ⟨rfl, rfl⟩
  | cons note rest ih => exact ih (e.add note)

namespace Logger

variable (logger : Logger) (remark : Remark) (time : Timestamp)

/-- The entry of a remark that is made at some time through a logger. -/
def entry : Entry := logger.inscribe (remark.entry time logger.name)

theorem inscribe_level_message (e : Entry) :
    (logger.inscribe e).level = e.level ∧ (logger.inscribe e).message = e.message := by
  unfold inscribe
  split <;> exact ⟨rfl, rfl⟩

/-- An entry has the level and the message of its remark. -/
theorem entry_level_message :
    (logger.entry remark time).level = remark.level ∧
      (logger.entry remark time).message = remark.message := by
  have hinscribed := logger.inscribe_level_message (remark.entry time logger.name)
  have hadded := foldl_add_level_message remark.notes
    { timestamp := time, level := remark.level, message := remark.message, logger := logger.name }
  exact ⟨hinscribed.1.trans hadded.1, hinscribed.2.trans hadded.2⟩

/-- The session takes no other field away. -/
theorem lookup_inscribe {key : String} (h : key ≠ "session_id") (e : Entry) :
    (logger.inscribe e).fields.lookup key = e.fields.lookup key := by
  unfold inscribe
  split
  · rfl
  · exact e.fields.lookup_set_of_ne h _

end Logger

end SimSweep.Log
