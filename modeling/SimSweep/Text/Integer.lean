import SimSweep.Number.Decimal

/-! # Whole numbers in decimal

    Writing a whole number, and reading one that must fit a range of machine
    words. A text is refused for the first reason that applies from the left.
-/

namespace SimSweep

/-- The decimal text of a whole number. -/
def intText (i : Int) : List Char :=
  if i < 0 then '-' :: Decimal.digitsOf i.natAbs else Decimal.digitsOf i.natAbs

/-- Why a text is not a whole number in a range. -/
inductive IntFault where
  | empty
  | invalidDigit
  | tooLarge
  | tooSmall
  deriving DecidableEq

/-- The wording of a fault. -/
def IntFault.message : IntFault → String
  | .empty => "cannot parse integer from empty string"
  | .invalidDigit => "invalid digit found in string"
  | .tooLarge => "number too large to fit in target type"
  | .tooSmall => "number too small to fit in target type"

/-- Reads digits into a value whose magnitude may not exceed `limit`, starting
    from `n`. Whichever fault stands further left is reported. -/
def readDigits (limit : Nat) (overflow : IntFault) (n : Nat) : List Char → Except IntFault Nat
  | [] => .ok n
  | c :: cs =>
    if ¬ c.isDigit then .error .invalidDigit
    else
      let m := 10 * n + (c.toNat - '0'.toNat)
      if limit < m then .error overflow else readDigits limit overflow m cs

/-- Reads a whole number between `-2 ^ bits` and `2 ^ bits - 1`, with an optional
    sign and at least one digit. -/
def readInt (bits : Nat) (cs : List Char) : Except IntFault Int :=
  match cs with
  | [] => .error .empty
  | ['+'] | ['-'] => .error .invalidDigit
  | '-' :: rest => (readDigits (Nat.pow 2 bits) .tooSmall 0 rest).map fun n => -(n : Int)
  | '+' :: rest => (readDigits (Nat.pow 2 bits - 1) .tooLarge 0 rest).map Int.ofNat
  | rest => (readDigits (Nat.pow 2 bits - 1) .tooLarge 0 rest).map Int.ofNat

end SimSweep
