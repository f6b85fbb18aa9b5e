import SimSweep.Number.Reading
import SimSweep.Text.Blank
import SimSweep.Time.Timestamp

/-! # Reading timestamps

    A relaxed form of RFC 3339 is read: numbers may have fewer digits than the
    written form gives them, blanks may stand before numbers and marks, a blank
    may separate the date from the time, and the offset may leave out its colon
    or be spelled `Z` or `UTC` in any case. A year with a sign has any number of
    digits. Digits beyond the nanosecond are ignored.
-/

namespace SimSweep.Timestamp

/-! ## Section 1: Numbers and marks -/

/-- Reads a number of at least one and at most `width` digits. -/
def readNumber? (width : Nat) (cs : List Char) : Option (Nat × List Char) :=
  let digits := (cs.take width).takeWhile Char.isDigit
  if digits.isEmpty then none else some (Decimal.valueOf digits, cs.drop digits.length)

/-- Reads a number of one or two digits between two bounds, after blanks. -/
def readField? (lo hi : Nat) (cs : List Char) : Option (Nat × List Char) := do
  let (n, rest) ← readNumber? 2 (trimStart cs)
  if lo ≤ n ∧ n ≤ hi then some (n, rest) else none

/-- Reads a mark, after blanks. -/
def readMark? (mark : Char) (cs : List Char) : Option (List Char) :=
  match trimStart cs with
  | c :: rest => if c = mark then some rest else none
  | [] => none

/-- Reads a year, after blanks: at most four digits, or a sign and any number. -/
def readYear? (cs : List Char) : Option (Int × List Char) :=
  match trimStart cs with
  | '-' :: rest => (readNumber? rest.length rest).map fun (n, rest) => (-(n : Int), rest)
  | '+' :: rest => (readNumber? rest.length rest).map fun (n, rest) => ((n : Int), rest)
  | rest => (readNumber? 4 rest).map fun (n, rest) => ((n : Int), rest)

/-- Reads the part below a second, if a point introduces one, in nanoseconds. -/
def readFraction? (cs : List Char) : Option (Nat × List Char) :=
  match cs with
  | '.' :: rest => do
    let (digits, rest) := Decimal.spanDigits rest
    if digits.isEmpty then none
    else
      let kept := digits.take 9
      some (Decimal.valueOf kept * Nat.pow 10 (9 - kept.length), rest)
  | _ => some (0, cs)

/-! ## Section 2: The offset -/

/-- Reads exactly two digits. -/
def readPair? : List Char → Option (Nat × List Char)
  | a :: b :: rest =>
    if a.isDigit ∧ b.isDigit then some (Decimal.valueOf [a, b], rest) else none
  | _ => none

/-- Reads an offset from universal time, in seconds, less than a day. -/
def readOffset? (cs : List Char) : Option (Int × List Char) :=
  let name := String.ofList ((cs.take 3).map Char.toUpper)
  if name = "UTC" then some (0, cs.drop 3)
  else match cs with
    | [] => none
    | c :: rest =>
      if c = 'Z' ∨ c = 'z' then some (0, rest)
      else if c = '+' ∨ c = '-' ∨ c = '−' then do
        let (hours, rest) ← readPair? rest
        let (minutes, rest) ← readPair? (rest.dropWhile fun d => d == ':' || isBlank d)
        let seconds : Int := hours * 3600 + minutes * 60
        if minutes < 60 ∧ hours < 24 then some (if c = '+' then seconds else -seconds, rest)
        else none
      else none

/-! ## Section 3: Instants -/

/-- The years of which every day can be told. -/
def isKnownYear (year : Int) : Bool := decide (-262143 ≤ year ∧ year ≤ 262142)

/-- Reads a date, after blanks. -/
def readDate? (cs : List Char) : Option (Date × List Char) := do
  let (year, rest) ← readYear? cs
  let rest ← readMark? '-' rest
  let (month, rest) ← readField? 1 12 rest
  let rest ← readMark? '-' rest
  let (day, rest) ← readField? 1 31 rest
  let date : Date := ⟨year, month, day⟩
  if date.isValid ∧ isKnownYear year then some (date, rest) else none

/-- Reads a time of day, after blanks: its second and its nanoseconds. Second 60
    is a leap second. -/
def readClock? (cs : List Char) : Option (Nat × Nat × List Char) := do
  let (hour, rest) ← readField? 0 23 cs
  let rest ← readMark? ':' rest
  let (minute, rest) ← readField? 0 59 rest
  let rest ← readMark? ':' rest
  let (second, rest) ← readField? 0 60 rest
  let (nanos, rest) ← readFraction? rest
  let leap := if second = 60 then 1 else 0
  some (hour * 3600 + minute * 60 + second - leap, nanos + leap * Nat.pow 10 9, rest)

/-- Reads an instant with blanks allowed at the end. -/
def read? (cs : List Char) : Option Timestamp := do
  let (date, rest) ← readDate? cs
  let rest ← match rest with
    | c :: rest => if c = 'T' ∨ c = 't' ∨ c = ' ' then some rest else none
    | [] => none
  let (second, nanos, rest) ← readClock? rest
  let (offset, rest) ← readOffset? (trimStart rest)
  let t : Timestamp := ⟨date.toDays * daySeconds + second - offset, nanos⟩
  if rest.all isBlank ∧ isKnownYear t.date.year then some t else none

end SimSweep.Timestamp
