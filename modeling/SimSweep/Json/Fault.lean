/-! # Faults in JSON text

    What can be wrong with a JSON text, where it was noticed, and how it is
    reported. A fault keeps the number of bytes that were still unread; its line
    and column follow from the text.
-/

namespace SimSweep.Json

/-- What is wrong with a text. -/
inductive FaultKind where
  | endInValue
  | endInNumber
  | endInList
  | endInObject
  | endInString
  | missingColon
  | missingListComma
  | missingObjectComma
  | badWord
  | noValue
  | badEscape
  | badNumber
  | numberOutOfRange
  | controlCharacter
  | keyNotString
  | loneSurrogate
  | brokenSurrogatePair
  | trailingComma
  | trailingCharacters
  | tooDeep
  deriving DecidableEq

/-- The wording of a fault. -/
def FaultKind.message : FaultKind → String
  | .endInValue => "EOF while parsing a value"
  | .endInNumber => "EOF while parsing a value"
  | .endInList => "EOF while parsing a list"
  | .endInObject => "EOF while parsing an object"
  | .endInString => "EOF while parsing a string"
  | .missingColon => "expected \x60:\x60"
  | .missingListComma => "expected \x60,\x60 or \x60]\x60"
  | .missingObjectComma => "expected \x60,\x60 or \x60\x7d\x60"
  | .badWord => "expected ident"
  | .noValue => "expected value"
  | .badEscape => "invalid escape"
  | .badNumber => "invalid number"
  | .numberOutOfRange => "number out of range"
  | .controlCharacter => "control character (\\u0000-\\u001F) found while parsing a string"
  | .keyNotString => "key must be a string"
  | .loneSurrogate => "lone leading surrogate in hex escape"
  | .brokenSurrogatePair => "unexpected end of hex escape"
  | .trailingComma => "trailing comma"
  | .trailingCharacters => "trailing characters"
  | .tooDeep => "recursion limit exceeded"

/-- Whether the text ended too early, as against saying something wrong. -/
def FaultKind.isEnd : FaultKind → Bool
  | .endInValue | .endInNumber | .endInList | .endInObject | .endInString => true
  | _ => false

/-- A fault, noticed when `left` bytes of the text were still unread. -/
structure Fault where
  kind : FaultKind
  left : Nat
  deriving DecidableEq

/-- Why a value has no text. -/
inductive WriteFault where
  /-- A number that is not finite has no numeral. -/
  | notFinite
  deriving DecidableEq

/-- The wording of a fault of a value. -/
def WriteFault.message : WriteFault → String
  | .notFinite => "number out of range"

/-- The number of bytes of a text. -/
def byteLength (cs : List Char) : Nat := cs.foldr (fun c n => c.utf8Size + n) 0

/-- A place in a text: lines count from one, columns are bytes since the last
    line break. -/
structure Place where
  line : Nat
  column : Nat

/-- The place reached from another after some bytes of a text. -/
def Place.advance (p : Place) (bytes : Nat) : List Char → Place
  | [] => p
  | c :: cs =>
    if bytes = 0 then p
    else if c = '\n' then Place.advance ⟨p.line + 1, 0⟩ (bytes - 1) cs
    else
      let size := min c.utf8Size bytes
      Place.advance ⟨p.line, p.column + size⟩ (bytes - size) cs

namespace Fault

/-- The place of a fault in its text. -/
def place (f : Fault) (text : List Char) : Place :=
  Place.advance ⟨1, 0⟩ (byteLength text - f.left) text

/-- The report of a fault in its text. -/
def message (f : Fault) (text : List Char) : String :=
  let p := f.place text
  f.kind.message ++ " at line " ++ toString p.line ++ " column " ++ toString p.column

/-- A fault at the present place. -/
def here (kind : FaultKind) (rest : List Char) : Fault := ⟨kind, byteLength rest⟩

/-- A fault at the next byte, which has been looked at but not read. -/
def ahead (kind : FaultKind) (rest : List Char) : Fault := ⟨kind, byteLength rest - 1⟩

end Fault

end SimSweep.Json
