/-! # UTF-8

    Reading bytes as text. Bytes that are no character are taken in the longest
    pieces that could have started one, and each piece counts as one undecodable
    place. A *word* is a text that may have such places.
-/

namespace SimSweep

/-- A text with places that could not be decoded. -/
abbrev Word := List (Option Char)

namespace Utf8

/-- Whether a byte continues a character. -/
def isContinuation (b : UInt8) : Bool := decide (0x80 ≤ b ∧ b ≤ 0xBF)

/-- How many bytes follow the first byte of a character, and the bounds of the
    second byte; none if no character starts with the byte. The bounds exclude
    overlong forms, surrogates and what lies beyond the last code point. -/
def lead? (b : UInt8) : Option (Nat × UInt8 × UInt8) :=
  if b < 0x80 then some (0, 0x80, 0xBF)
  else if b < 0xC2 then none
  else if b < 0xE0 then some (1, 0x80, 0xBF)
  else if b = 0xE0 then some (2, 0xA0, 0xBF)
  else if b = 0xED then some (2, 0x80, 0x9F)
  else if b < 0xF0 then some (2, 0x80, 0xBF)
  else if b = 0xF0 then some (3, 0x90, 0xBF)
  else if b < 0xF4 then some (3, 0x80, 0xBF)
  else if b = 0xF4 then some (3, 0x80, 0x8F)
  else none

/-- The value bits of a first byte that is followed by `n` others. -/
def leadBits (n : Nat) (b : UInt8) : Nat :=
  if n = 0 then b.toNat else b.toNat % Nat.pow 2 (6 - n)

/-- The bytes at the start of a text that continue a character, at most `n`. -/
def continuation (n : Nat) (lo hi : UInt8) (bytes : List UInt8) : List UInt8 :=
  match n, bytes with
  | n + 1, b :: rest =>
    if lo ≤ b ∧ b ≤ hi then b :: (rest.take n).takeWhile isContinuation else []
  | _, _ => []

/-- The character, or undecodable place, at the start of a text, and the number of
    bytes that it takes after the first. -/
def step (b : UInt8) (rest : List UInt8) : Option Char × Nat :=
  match lead? b with
  | none => (none, 0)
  | some (n, lo, hi) =>
    let more := continuation n lo hi rest
    if more.length = n then
      let code := more.foldl (fun code c => code * 64 + c.toNat % 64) (leadBits n b)
      (some (Char.ofNat code), n)
    else (none, more.length)

/-- The word of some bytes. -/
def decode : List UInt8 → Word
  | [] => []
  | b :: rest =>
    let (c, n) := step b rest
    c :: decode (rest.drop n)
termination_by bytes => bytes.length
decreasing_by simp only [List.length_drop, List.length_cons]; omega

/-- The character that stands for an undecodable place. -/
def replacement : Char := '\uFFFD'

/-- The bytes of a text. -/
def encode (cs : List Char) : List UInt8 := cs.flatMap String.utf8EncodeChar

end Utf8

namespace Word

/-- A text as a word. -/
def ofString (s : String) : Word := s.toList.map some

/-- The text of a word in which every place could be decoded. -/
def text? (w : Word) : Option String := (w.mapM id).map String.ofList

/-- The text of a word with replacements for what could not be decoded. -/
def lossy (w : Word) : String := String.ofList (w.map fun c => c.getD Utf8.replacement)

end Word

end SimSweep
