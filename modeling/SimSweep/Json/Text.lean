import SimSweep.Json.Fault

/-! # Reading JSON strings

    The characters of a string up to its closing quote. Surrogates written as
    escapes have to come in pairs; one that does not is a fault of the content,
    which is kept in its place because the string still has an end.
-/

namespace SimSweep.Json

/-- The value of a hexadecimal digit. -/
def hexValue? (c : Char) : Option Nat :=
  if c.isDigit then some (c.toNat - '0'.toNat)
  else if 'a' ≤ c ∧ c ≤ 'f' then some (c.toNat - 'a'.toNat + 10)
  else if 'A' ≤ c ∧ c ≤ 'F' then some (c.toNat - 'A'.toNat + 10)
  else none

/-- The value of four hexadecimal digits. -/
def hexUnit? (a b c d : Char) : Option Nat := do
  some (((← hexValue? a) * 16 + (← hexValue? b)) * 256 + ((← hexValue? c) * 16 + (← hexValue? d)))

/-- The fault of an escape that is not followed by four hexadecimal digits. -/
def unitFault (cs : List Char) : Fault :=
  if byteLength cs < 4 then ⟨.endInString, 0⟩ else ⟨.badEscape, byteLength cs - 4⟩

/-- The character of an escape with one letter. -/
def escaped? : Char → Option Char
  | '"' => some '"'
  | '\\' => some '\\'
  | '/' => some '/'
  | 'b' => some '\x08'
  | 'f' => some '\x0c'
  | 'n' => some '\n'
  | 'r' => some '\r'
  | 't' => some '\t'
  | _ => none

/-- The content of a string, or its fault, and what follows the closing quote. -/
abbrev TextReading := Except Fault (Except Fault (List Char) × List Char)

/-- Puts a character in front of the content. -/
def TextReading.cons (c : Char) : TextReading → TextReading :=
  Except.map fun (content, rest) => (content.map (c :: ·), rest)

/-- Replaces the content by a fault that stands before it. -/
def TextReading.spoil (f : Fault) : TextReading → TextReading
  | .error _ => .error f
  | .ok (_, rest) => .ok (.error f, rest)

/-- A unit that has to be the first of a pair. -/
def isLeading (unit : Nat) : Bool := decide (0xD800 ≤ unit ∧ unit ≤ 0xDBFF)

/-- A unit that has to be the second of a pair. -/
def isTrailing (unit : Nat) : Bool := decide (0xDC00 ≤ unit ∧ unit ≤ 0xDFFF)

/-- The character of a pair of units. -/
def pairChar (leading trailing : Nat) : Char :=
  Char.ofNat (0x10000 + (leading - 0xD800) * 0x400 + (trailing - 0xDC00))

/-- Reads the rest of a string after its opening quote. -/
def readString : List Char → TextReading
  | [] => .error (.here .endInString [])
  | '"' :: rest => .ok (.ok [], rest)
  | '\\' :: [] => .error (.here .endInString [])
  | '\\' :: 'u' :: a :: b :: c :: d :: rest =>
    match hexUnit? a b c d with
    | none => .error (unitFault (a :: b :: c :: d :: rest))
    | some unit =>
      if isTrailing unit then (readString rest).spoil (.here .loneSurrogate rest)
      else if ¬ isLeading unit then (readString rest).cons (Char.ofNat unit)
      else match rest with
        | [] => .error (.here .endInString [])
        | '\\' :: [] => .error (.here .endInString [])
        | '\\' :: 'u' :: e :: f :: g :: h :: rest' =>
          match hexUnit? e f g h with
          | none => .error (unitFault (e :: f :: g :: h :: rest'))
          | some second =>
            if isTrailing second then (readString rest').cons (pairChar unit second)
            else (readString rest').spoil (.here .loneSurrogate rest')
        | '\\' :: 'u' :: short => .error (unitFault short)
        | '\\' :: after => (readString after).spoil (.ahead .brokenSurrogatePair after)
        | after => (readString after).spoil (.ahead .brokenSurrogatePair after)
  | '\\' :: 'u' :: short => .error (unitFault short)
  | '\\' :: c :: rest =>
    match escaped? c with
    | some d => (readString rest).cons d
    | none => .error (.ahead .badEscape (c :: rest))
  | c :: rest =>
    if c.toNat < 0x20 then .error (.here .controlCharacter rest)
    else (readString rest).cons c

end SimSweep.Json
