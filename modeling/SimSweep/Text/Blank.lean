/-! # Blanks

    The characters that count as blank space: exactly the 25 code points with
    the Unicode property `White_Space`. Trimming takes them off the ends of a
    text and nothing else.
-/

namespace SimSweep

/-- The code points with the property `White_Space`, as closed intervals. -/
def blankIntervals : List (Nat × Nat) :=
  [(0x09, 0x0D), (0x20, 0x20), (0x85, 0x85), (0xA0, 0xA0), (0x1680, 0x1680),
   (0x2000, 0x200A), (0x2028, 0x2029), (0x202F, 0x202F), (0x205F, 0x205F), (0x3000, 0x3000)]

/-- Whether a character is blank. -/
def isBlank (c : Char) : Bool :=
  blankIntervals.any fun (lo, hi) => decide (lo ≤ c.toNat ∧ c.toNat ≤ hi)

example : (blankIntervals.map fun (lo, hi) => hi + 1 - lo).sum = 25 := by decide

/-- A text without the blanks it starts with. -/
def trimStart (cs : List Char) : List Char := cs.dropWhile isBlank

/-- A text without the blanks it ends with. -/
def trimEnd (cs : List Char) : List Char := (cs.reverse.dropWhile isBlank).reverse

/-- A text without the blanks at its ends. -/
def trim (cs : List Char) : List Char := trimEnd (trimStart cs)

/-- A string without the blanks at its ends. -/
def trimmed (s : String) : String := String.ofList (trim s.toList)

/-- Whether a string has no character that is not blank. -/
def isBlankText (s : String) : Bool := s.toList.all isBlank

end SimSweep
