import SimSweep.Shell.Format
import SimSweep.Text.Integer
import SimSweep.Tool.Awk.Token
import SimSweep.Tool.Awk.Tree

/-! # Values of records

    A value is a number or a text. What is read from the input is both if it looks like a
    number, and what was never set is zero as a number and empty as a text.
-/

namespace SimSweep.Tool.Awk

/-- A value. -/
inductive Value where
  | nothing
  | number (x : Float)
  | text (s : String)
  /-- A text that looks like a number. -/
  | numeral (s : String) (x : Float)

/-! ## Section 1: Numbers -/

/-- The binary64 number of a float. -/
def binaryOf (x : Float) : Binary64 :=
  let bits := x.toBits.toNat
  let sign := Nat.pow 2 63
  let rank := bits % sign
  if rank = rankBound then .infinite (decide (sign ≤ bits))
  else if rankBound < rank then .nan
  else .ofRank (decide (sign ≤ bits)) rank

/-- The float of a binary64 number. -/
def floatOf : Binary64 → Float
  | .nan => 0.0 / 0.0
  | .infinite negative => if negative then -1.0 / 0.0 else 1.0 / 0.0
  | .finite negative k => Float.ofBits (UInt64.ofNat (k.val + if negative then Nat.pow 2 63 else 0))

/-- The remainder of a division whose quotient is rounded toward zero. -/
def remainder (x y : Float) : Float :=
  match binaryOf x, binaryOf y with
  | .finite negative j, .finite _ k =>
    let n := Binary64.steps k.val
    if n = 0 then 0.0 / 0.0
    else floatOf (.ofRatio negative (Binary64.steps j.val % n) Binary64.scale)
  | .finite _ _, .infinite _ => x
  | _, _ => 0.0 / 0.0

/-- The whole number that is next to a float toward zero, if there is one. -/
def wholeOf? (x : Float) : Option Int :=
  match binaryOf x with
  | .finite negative k =>
    let n := Binary64.steps k.val / Binary64.scale
    some (if negative then -(n : Int) else n)
  | _ => none

/-- The text of a number in one place of a format. -/
def formatted (layout : Shell.Format.Layout) (conversion : Char) (x : Float) : List Char :=
  layout.fraction conversion { value := binaryOf x, isNegativeNan := x.isNaN }

/-- The layout of a place in a format, without what is in front of its flags. -/
def layoutOf (cs : List Char) : Shell.Format.Layout × List Char :=
  let flags := cs.takeWhile fun c => "-+ #0".toList.contains c
  let rest := cs.drop flags.length
  let width := rest.takeWhile Char.isDigit
  let rest := rest.drop width.length
  let (precision, rest) := match rest with
    | '.' :: more => (some (Decimal.valueOf (more.takeWhile Char.isDigit)),
        more.dropWhile Char.isDigit)
    | _ => (none, rest)
  ({ flags, width := if width.isEmpty then none else some (Decimal.valueOf width), precision },
    rest)

/-- The text of a number that is no whole number in a format such as `%.6g`. -/
def inFormat (format : String) (x : Float) : String :=
  let cs := format.toList
  let lead := cs.takeWhile (· ≠ '%')
  let (layout, rest) := layoutOf (cs.drop (lead.length + 1))
  match rest with
  | c :: after =>
    let body := if c = 'd' ∨ c = 'i' then layout.integer c ((wholeOf? x).getD 0)
      else formatted layout c x
    String.ofList (lead ++ body ++ after)
  | [] => format

/-- The greatest number of sixty-four bits. -/
def wordLimit : Int := Nat.pow 2 64 - 1

/-- The text of a number. -/
def numberText (format : String) (x : Float) : String :=
  match wholeOf? x with
  | some n =>
    if Float.ofInt n == x ∧ n ≤ wordLimit + 1 ∧ -Nat.pow 2 63 ≤ n then
      String.ofList (intText (min n wordLimit))
    else inFormat format x
  | none => inFormat format x

namespace Value

/-! ## Section 2: Values -/

/-- Whether a character separates words. -/
def isSpace (c : Char) : Bool := c == ' ' || c == '\t' || c == '\n' || c == '\r' ||
  c == '\x0b' || c == '\x0c'

/-- The number that a text starts with. -/
def numberOf (s : String) : Float :=
  ((leadingNumber? (s.toList.dropWhile isSpace)).map Prod.fst).getD 0

/-- A value as a number. -/
def toNumber : Value → Float
  | .nothing => 0
  | .number x | .numeral _ x => x
  | .text s => numberOf s

/-- A value as a text; the format is the one for numbers that are not whole. -/
def toText (format : String) : Value → String
  | .nothing => ""
  | .number x => numberText format x
  | .text s | .numeral s _ => s

/-- Whether a value stands for true. -/
def isTrue : Value → Bool
  | .nothing => false
  | .number x | .numeral _ x => x != 0
  | .text s => !s.isEmpty

/-- The value of a text that was read: it is a number, too, if it looks like one. -/
def ofInput (s : String) : Value :=
  match leadingNumber? (s.toList.dropWhile isSpace) with
  | some (x, rest) => if rest.all isSpace then .numeral s x else .text s
  | none => .text s

/-- The value for a condition. -/
def ofBool (b : Bool) : Value := .number (if b then 1 else 0)

/-- Compares values: as numbers if both look like numbers, and otherwise as texts. -/
def compares (op : Operation) (format : String) (a b : Value) : Bool :=
  let number? : Value → Option Float
    | .nothing => some 0
    | .number x | .numeral _ x => some x
    | .text _ => none
  match number? a, number? b with
  | some x, some y =>
    match op with
    | .less => x < y
    | .atMost => x ≤ y
    | .equal => x == y
    | .unequal => x != y
    | .greater => y < x
    | _ => y ≤ x
  | _, _ =>
    let o := compare (a.toText format) (b.toText format)
    match op with
    | .less => o == .lt
    | .atMost => o != .gt
    | .equal => o == .eq
    | .unequal => o != .eq
    | .greater => o == .gt
    | _ => o != .lt

end Value

/-- The result of an operation on numbers. -/
def Operation.apply (op : Operation) (x y : Float) : Float :=
  match op with
  | .add => x + y
  | .sub => x - y
  | .mul => x * y
  | .div => x / y
  | .mod => remainder x y
  | .pow => x.pow y
  | _ => 0

end SimSweep.Tool.Awk
