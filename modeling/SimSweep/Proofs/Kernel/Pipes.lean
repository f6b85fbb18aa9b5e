import SimSweep.Proofs.Kernel.Descriptors

/-! # Pipes

    A pipe is a queue of bytes. What happens to it between two states of the system is
    described by the bytes that are written to it and those that are read from it, with
    anything in between that leaves it alone (`Flow`). Main statement: `Flow.conservation`.
    What was in the pipe before, followed by what is written, is what is read, followed by
    what is in the pipe then.
-/

namespace SimSweep.Kernel.World

variable {w w' : World} {id : Nat} {waiting : List UInt8}

/-! ## Section 1: What is in a pipe -/

/-- Some bytes wait in the pipe of a number, in the order in which they were written. -/
def Holds (w : World) (id : Nat) (waiting : List UInt8) : Prop :=
  ∃ pipe, w.pipes[id]? = some pipe ∧ pipe.start ≤ pipe.bytes.size ∧
    pipe.bytes.data.toList.drop pipe.start = waiting

theorem Holds.congr (h : w.Holds id waiting) (hpipe : w'.pipes[id]? = w.pipes[id]?) :
    w'.Holds id waiting := by
  unfold Holds
  rw [hpipe]
  exact h

/-- Their number is the size of the pipe. -/
theorem Holds.pipeSize (h : w.Holds id waiting) : w.pipeSize id = waiting.length := by
  obtain ⟨pipe, hpipe, _, rfl⟩ := h
  unfold World.pipeSize
  rw [hpipe, List.length_drop, Array.length_toList]
  rfl

/-- Nothing is in a new pipe. -/
theorem holds_makePipe (w : World) : w.makePipe.1.Holds w.pipes.size [] := by
  refine ⟨{}, ?_, Nat.le_refl 0, rfl⟩
  show (w.pipes.push {})[w.pipes.size]? = some {}
  exact Array.getElem?_push_size

/-! ## Section 2: Writing and reading -/

/-- What is written goes to the end. -/
theorem Holds.put (h : w.Holds id waiting) {handle : Nat} {opened : Handle}
    (htarget : opened.target = .drain id) {bytes : ByteArray}
    (hput : w.put handle opened bytes = .ok w') :
    w'.Holds id (waiting ++ bytes.data.toList) := by
  obtain ⟨pipe, hpipe, hstart, rfl⟩ := h
  unfold World.put at hput
  rw [htarget] at hput
  cases hput
  refine ⟨{ pipe with bytes := pipe.bytes ++ bytes }, ?_, ?_, ?_⟩
  · show (w.pipes.modify id _)[id]? = _
    rw [Array.getElem?_modify, if_pos rfl, hpipe]
    rfl
  · show pipe.start ≤ (pipe.bytes ++ bytes).size
    rw [ByteArray.size_append]
    omega
  · show (pipe.bytes ++ bytes).data.toList.drop pipe.start = _
    rw [ByteArray.toList_data_append, List.drop_append_of_le_length hstart]

/-- What is read comes from the front. -/
theorem Holds.bytesAt (h : w.Holds id waiting) {opened : Handle}
    (htarget : opened.target = .source id) {count : Nat} {bytes : ByteArray}
    (hread : w.bytesAt opened count = .ok bytes) : bytes.data.toList = waiting.take count := by
  obtain ⟨pipe, hpipe, _, rfl⟩ := h
  unfold World.bytesAt at hread
  rw [htarget] at hread
  simp only [hpipe] at hread
  cases hread
  rw [ByteArray.data_extract, Array.toList_extract, List.extract_eq_take_drop,
    Nat.add_sub_cancel_left]

/-- What was read is in the pipe no longer. -/
theorem Holds.advance (h : w.Holds id waiting) {handle : Nat} {opened : Handle}
    (htarget : opened.target = .source id) {count : Nat} (hcount : count ≤ waiting.length) :
    (w.advance handle opened count).Holds id (waiting.drop count) := by
  obtain ⟨pipe, hpipe, hstart, rfl⟩ := h
  have hsize : pipe.bytes.data.toList.length = pipe.bytes.size := rfl
  rw [List.length_drop, hsize] at hcount
  rw [List.drop_drop]
  unfold World.advance
  rw [htarget]
  refine ⟨_, by rw [Array.getElem?_modify, if_pos rfl, hpipe]; rfl, ?_⟩
  dsimp only
  split
  · -- the pipe is empty
    have hend : pipe.start + count = pipe.bytes.size := by omega
    refine ⟨Nat.le_refl 0, ?_⟩
    rw [hend, ← hsize, List.drop_length]
    rfl
  · split
    · -- the bytes that were read are let go
      refine ⟨Nat.zero_le _, ?_⟩
      rw [ByteArray.data_extract, Array.toList_extract, List.extract_eq_take_drop,
        List.drop_zero, ← hsize, List.take_of_length_le (by rw [List.length_drop])]
    · exact ⟨by dsimp only; omega, rfl⟩

/-! ## Section 3: What goes through a pipe -/

/-- Between two states of the system some bytes are written to a pipe and some are read from
    it. -/
inductive Flow (id : Nat) (w : World) : List UInt8 → List UInt8 → World → Prop where
  | start : Flow id w [] [] w
  /-- Something is written. -/
  | give {written read : List UInt8} {w₁ w₂ : World} {handle : Nat} {opened : Handle}
      {bytes : ByteArray} : Flow id w written read w₁ → opened.target = .drain id →
      w₁.put handle opened bytes = .ok w₂ → Flow id w (written ++ bytes.data.toList) read w₂
  /-- Something is read. -/
  | take {written read : List UInt8} {w₁ : World} {handle count : Nat} {opened : Handle}
      {bytes : ByteArray} : Flow id w written read w₁ → opened.target = .source id →
      w₁.bytesAt opened count = .ok bytes →
      Flow id w written (read ++ bytes.data.toList) (w₁.advance handle opened bytes.size)
  /-- Something else happens. -/
  | pass {written read : List UInt8} {w₁ w₂ : World} : Flow id w written read w₁ →
      w₂.pipes[id]? = w₁.pipes[id]? → Flow id w written read w₂

/-- Nothing is lost in a pipe, nothing is added, and everything keeps its place. -/
theorem Flow.conservation {written read : List UInt8} (h : Flow id w written read w')
    (hbefore : w.Holds id waiting) :
    ∃ left, w'.Holds id left ∧ waiting ++ written = read ++ left := by
  induction h with
  | start => exact ⟨waiting, hbefore, List.append_nil waiting⟩
  | give _ htarget hput ih =>
    obtain ⟨left, hleft, heq⟩ := ih
    refine ⟨_, hleft.put htarget hput, ?_⟩
    rw [← List.append_assoc, heq, List.append_assoc]
  | @take _ read w₁ _ count _ bytes _ htarget hread ih =>
    obtain ⟨left, hleft, heq⟩ := ih
    have hbytes : bytes.data.toList = left.take count := hleft.bytesAt htarget hread
    have hsize : bytes.size = (left.take count).length := congrArg List.length hbytes
    rw [List.length_take] at hsize
    refine ⟨left.drop bytes.size, hleft.advance htarget (by omega), ?_⟩
    -- as many bytes are dropped as were taken
    have hsplit : left.take count = left.take bytes.size := by
      rw [hsize, List.take_eq_take_iff]
      omega
    rw [heq, hbytes, hsplit, List.append_assoc, List.take_append_drop]
  | pass _ hpipe ih =>
    obtain ⟨left, hleft, heq⟩ := ih
    exact ⟨left, hleft.congr hpipe, heq⟩

/-- What has been read from a new pipe is the first part of what was written to it. -/
theorem Flow.read_of_makePipe {written read : List UInt8}
    (h : Flow w.pipes.size w.makePipe.1 written read w') : read <+: written := by
  obtain ⟨left, _, heq⟩ := h.conservation (holds_makePipe w)
  exact ⟨left, heq.symm⟩

end SimSweep.Kernel.World
