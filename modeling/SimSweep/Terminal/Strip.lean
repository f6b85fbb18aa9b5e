import SimSweep.Terminal.Style

/-! # Removing styles

    A style sequence is an escape character, an opening bracket, any digits and
    semicolons, and the letter `m`. Stripping a text deletes every one of them,
    scanning once from left to right.
-/

namespace SimSweep.Terminal

/-- Whether a character may stand between the bracket and the final letter. -/
def isParameter (c : Char) : Bool := c.isDigit || c == ';'

/-- The text after a style sequence at its start, if there is one. -/
def afterSequence? : List Char → Option (List Char)
  | '\x1b' :: '[' :: rest =>
    match rest.dropWhile isParameter with
    | 'm' :: after => some after
    | _ => none
  | _ => none

/-- A style sequence has at least one character, so that stripping a text ends. -/
theorem afterSequence?_length {cs after : List Char} (h : afterSequence? cs = some after) :
    after.length < cs.length := by
  unfold afterSequence? at h
  split at h
  · next rest =>
    split at h
    · next tail heq =>
      have hle := (List.dropWhile_sublist isParameter (l := rest)).length_le
      rw [heq] at hle
      simp at h hle ⊢
      subst h
      omega
    · simp at h
  · simp at h

/-- A text without its style sequences. -/
def strip (cs : List Char) : List Char :=
  match _h : afterSequence? cs with
  | some after => strip after
  | none =>
    match cs with
    | [] => []
    | c :: rest => c :: strip rest
termination_by cs.length
decreasing_by
  · exact afterSequence?_length (by assumption)
  · simp

end SimSweep.Terminal
