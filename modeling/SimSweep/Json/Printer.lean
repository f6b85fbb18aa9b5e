import SimSweep.Json.Fault
import SimSweep.Json.Value
import SimSweep.Number.Numeral

/-! # JSON text

    Writing a value as JSON text, on one line or indented by two blanks a level: one
    writer, to which a layout says where blanks stand. In a string the quote, the
    backslash and the control characters below the blank are escaped and nothing else is,
    so compact text has no line break.

    A value has no text if a number in it is not finite, for then it is no JSON value: a
    value that is made of anything else has null in the place of such a number.
-/

namespace SimSweep.Json

/-! ## Section 1: Strings and numbers -/

/-- The last digit of `n` in hexadecimal. -/
def hexDigit (n : Nat) : Char := Nat.digitChar (n % 16)

/-- A character as it stands in a JSON string. -/
def escapeChar (c : Char) : List Char :=
  if c = '"' then ['\\', '"']
  else if c = '\\' then ['\\', '\\']
  else if c = '\n' then ['\\', 'n']
  else if c = '\r' then ['\\', 'r']
  else if c = '\t' then ['\\', 't']
  else if c = '\x08' then ['\\', 'b']
  else if c = '\x0c' then ['\\', 'f']
  else if c.toNat < 0x20 then ['\\', 'u', '0', '0', hexDigit (c.toNat / 16), hexDigit c.toNat]
  else [c]

/-- A text between quotes. -/
def quote (cs : List Char) : List Char := '"' :: cs.flatMap escapeChar ++ ['"']

/-- The numeral of a number. -/
def Number.write : Number → List Char
  | .natural n => Decimal.digitsOf n
  | .negative n => '-' :: Decimal.digitsOf n
  | .float x => x.write .json

/-! ## Section 2: Values -/

/-- Where blanks stand in a text. -/
structure Layout where
  /-- What stands in front of an item, of a member and of a closing bracket that follows
      one, inside some arrays and objects. -/
  lineBreak : Nat → List Char
  /-- What stands between a colon and the value of its member. -/
  colonGap : List Char

namespace Layout

/-- No blanks at all. -/
def compact : Layout := ⟨fun _ => [], []⟩

/-- Every item and member on a line of its own. -/
def pretty : Layout := ⟨fun level => '\n' :: List.replicate (2 * level) ' ', [' ']⟩

end Layout

namespace Value

mutual

/-- The text of a value that stands inside `level` arrays and objects. -/
def write (l : Layout) (level : Nat) : Value → List Char
  | .null => "null".toList
  | .bool true => "true".toList
  | .bool false => "false".toList
  | .number n => n.write
  | .string s => quote s.toList
  | .array [] => ['[', ']']
  | .array (v :: rest) =>
    '[' :: l.lineBreak (level + 1) ++ v.write l (level + 1) ++ writeItems l level rest
  | .object [] => ['\x7b', '\x7d']
  | .object ((k, v) :: rest) =>
    '\x7b' :: l.lineBreak (level + 1) ++ quote k.toList ++ ':' :: l.colonGap ++
      v.write l (level + 1) ++ writeMembers l level rest

/-- The items after the first, and the end of the array. -/
def writeItems (l : Layout) (level : Nat) : List Value → List Char
  | [] => l.lineBreak level ++ [']']
  | v :: rest =>
    ',' :: l.lineBreak (level + 1) ++ v.write l (level + 1) ++ writeItems l level rest

/-- The members after the first, and the end of the object. -/
def writeMembers (l : Layout) (level : Nat) : List (String × Value) → List Char
  | [] => l.lineBreak level ++ ['\x7d']
  | (k, v) :: rest =>
    ',' :: l.lineBreak (level + 1) ++ quote k.toList ++ ':' :: l.colonGap ++
      v.write l (level + 1) ++ writeMembers l level rest

end

/-- The text of a value without any blanks between tokens. -/
def compact (v : Value) : List Char := v.write .compact 0

/-- The text of a value on one line. -/
def text (v : Value) : String := String.ofList v.compact

end Value

/-! ## Section 3: Values without a text -/

/-- What is wrong with a number, if anything is. -/
def Number.fault? : Number → Option WriteFault
  | .float x => if x.isFinite then none else some .notFinite
  | _ => none

namespace Value

mutual

/-- What is wrong with a value, if anything is: the first of its faults. -/
def fault? : Value → Option WriteFault
  | .number n => n.fault?
  | .array items => itemsFault? items
  | .object members => membersFault? members
  | _ => none

/-- The first fault of some items. -/
def itemsFault? : List Value → Option WriteFault
  | [] => none
  | v :: rest => v.fault?.or (itemsFault? rest)

/-- The first fault of the values of some members. -/
def membersFault? : List (String × Value) → Option WriteFault
  | [] => none
  | (_, v) :: rest => v.fault?.or (membersFault? rest)

end

/-- The text of a value in a layout, if it has one. -/
def render (l : Layout) (v : Value) : Except WriteFault (List Char) :=
  match v.fault? with
  | none => .ok (v.write l 0)
  | some f => .error f

theorem render_of_fault?_eq_none {v : Value} (h : v.fault? = none) (l : Layout) :
    v.render l = .ok (v.write l 0) := by
  unfold render
  rw [h]

end Value

end SimSweep.Json
