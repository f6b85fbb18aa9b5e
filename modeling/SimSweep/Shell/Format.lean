import SimSweep.Shell.Fraction
import SimSweep.Shell.Numeral
import SimSweep.Shell.Tree

/-! # Formatted output

    The escapes that are understood in what commands print, and formats: texts in
    which a percent sign introduces the place of an argument. A format is used again
    for as long as there are arguments left.
-/

namespace SimSweep.Shell.Format

/-! ## Section 1: Escapes -/

/-- The byte of an escape with one letter. -/
def letterEscape? : Char → Option Char
  | 'a' => some '\x07'
  | 'b' => some '\x08'
  | 'e' => some '\x1b'
  | 'f' => some '\x0c'
  | 'n' => some '\n'
  | 'r' => some '\r'
  | 't' => some '\t'
  | 'v' => some '\x0b'
  | '\\' => some '\\'
  | _ => none

/-- The digits in base eight at the start of a text, at most three. -/
def octalDigits (cs : List Char) : List Char :=
  (cs.take 3).takeWhile fun c => decide ('0' ≤ c ∧ c ≤ '7')

/-- The byte that digits in base eight denote. -/
def octalByte (digits : List Char) : Char := Char.ofNat (Nat.ofDigitChars 8 digits 0 % 256)

/-- The byte of the escape that follows a backslash, and how many characters of the
    text it takes. What is no escape leaves the backslash as it is. -/
def escape (cs : List Char) : Char × Nat :=
  let digits := octalDigits cs
  match cs.head? >>= letterEscape? with
  | some b => (b, 1)
  | none => if digits.isEmpty then ('\\', 0) else (octalByte digits, digits.length)

/-- The bytes of an escape of the rich dialect that follows a backslash, and how many
    characters of the text it takes: of a byte in base sixteen, or of a character by its
    number. -/
def numberEscape? (cs : List Char) : Option (List Char × Nat) :=
  let digits (limit : Nat) (rest : List Char) : List Char :=
    (rest.take limit).takeWhile (Numeral.isDigitIn 16)
  let character (digits : List Char) : Option (List Char × Nat) :=
    if digits.isEmpty then none
    else some (numbered (Numeral.valueIn 16 digits), 1 + digits.length)
  match cs with
  | 'x' :: rest =>
    let found := digits 2 rest
    if found.isEmpty then none
    else some ([Char.ofNat (Numeral.valueIn 16 found)], 1 + found.length)
  | 'u' :: rest => character (digits 4 rest)
  | 'U' :: rest => character (digits 8 rest)
  | _ => none

/-- The bytes of the escape that follows a backslash, and how many characters of the text
    it takes. -/
def escapeIn (dialect : Dialect) (cs : List Char) : List Char × Nat :=
  let (byte, n) := escape cs
  if dialect = .rich then
    match cs, numberEscape? cs with
    | _, some found => found
    | '"' :: _, none => (['"'], 1)
    | '\'' :: _, none => (['\''], 1)
    | '?' :: _, none => (['?'], 1)
    | 'E' :: _, none => (['\x1b'], 1)
    | _, none => ([byte], n)
  else ([byte], n)

/-- The bytes of an argument with its escapes, and whether the output ends in it.
    Digits of an escape may stand behind a zero, or have to. -/
def unescape (dialect : Dialect) (needsZero : Bool) : Nat → List Char → List Char × Bool
  | 0, _ => ([], false)
  | _, [] => ([], false)
  | fuel + 1, '\\' :: rest =>
    let behind (bytes rest : List Char) : List Char × Bool :=
      let (more, ends) := unescape dialect needsZero fuel rest
      (bytes ++ more, ends)
    match rest with
    | 'c' :: _ => ([], true)
    | '0' :: more =>
      let digits := octalDigits more
      behind [octalByte digits] (more.drop digits.length)
    | rest =>
      let isPlain := rest.head?.any fun c => c == '"' || c == '\'' || c == '?' ||
        (needsZero && c.isDigit)
      if dialect = .rich ∧ isPlain then behind ['\\'] rest
      else
        let (bytes, n) := escapeIn dialect rest
        behind bytes (rest.drop n)
  | fuel + 1, c :: rest =>
    let (more, ends) := unescape dialect needsZero fuel rest
    (c :: more, ends)

/-- The bytes of an argument with its escapes, and whether the output ends in it. -/
def argument (s : String) (dialect : Dialect := .plain) (needsZero : Bool := false) :
    List Char × Bool :=
  unescape dialect needsZero (s.length + 1) s.toList

/-! ## Section 2: Places for arguments -/

/-- How an argument is laid out. -/
structure Layout where
  flags : List Char := []
  width : Option Int := none
  precision : Option Nat := none

namespace Layout

/-- Whether an argument stands at the left of its place. -/
def isLeft (l : Layout) : Bool := l.flags.contains '-' || decide (l.width.getD 0 < 0)

/-- Bytes filled up to the width with blanks. -/
def padded (l : Layout) (bytes : List Char) : List Char :=
  let fill := List.replicate ((l.width.getD 0).natAbs - bytes.length) ' '
  if l.isLeft then bytes ++ fill else fill ++ bytes

/-- The sign of a number that may have one. -/
def sign (l : Layout) (negative : Bool) : List Char :=
  if negative then ['-']
  else if l.flags.contains '+' then ['+']
  else if l.flags.contains ' ' then [' ']
  else []

/-- The text of a number, filled up with zeros behind its head, or with blanks. -/
def number (l : Layout) (fillsZeros : Bool) (head digits : List Char) : List Char :=
  if l.flags.contains '0' ∧ ¬ l.isLeft ∧ fillsZeros then
    let zeros := (l.width.getD 0).natAbs - head.length - digits.length
    head ++ List.replicate zeros '0' ++ digits
  else l.padded (head ++ digits)

/-- The text of a whole number. -/
def integer (l : Layout) (conversion : Char) (i : Int) : List Char :=
  let signed := conversion == 'd' || conversion == 'i'
  let base := if conversion = 'o' then 8 else if conversion.toLower = 'x' then 16 else 10
  let digits := if i = 0 ∧ l.precision = some 0 then [] else Nat.toDigits base i.natAbs
  let digits := if conversion = 'X' then digits.map Char.toUpper else digits
  let digits := List.replicate (l.precision.getD 0 - digits.length) '0' ++ digits
  let mark : List Char :=
    if ¬ l.flags.contains '#' ∨ i = 0 then []
    else if conversion = 'o' then ['0']
    else if conversion.toLower = 'x' then ['0', conversion]
    else []
  l.number l.precision.isNone ((if signed then l.sign (decide (i < 0)) else []) ++ mark) digits

/-- The text of a number with a fraction. -/
def fraction (l : Layout) (conversion : Char) (x : Fraction.Reading) : List Char :=
  let (negative, digits) :=
    Fraction.text conversion.toLower (l.flags.contains '#') l.precision x.value
  let digits := if conversion.isUpper then digits.map Char.toUpper else digits
  let (mark, digits) :=
    if conversion.toLower = 'a' ∧ x.value.isFinite then digits.splitAt 2 else ([], digits)
  l.number x.value.isFinite (l.sign (negative || x.isNegativeNan) ++ mark) digits

end Layout

/-! ## Section 3: Printing -/

/-- What is wrong with an argument, or with a format. -/
inductive Complaint where
  | noNumber (arg : String)
  | notWhole (arg : String)
  | outOfRange (arg : String)
  | noConversion (place : List Char)
  | unfinished (place : List Char)
  deriving DecidableEq

/-- The wording of a complaint. -/
def Complaint.message : Dialect → Complaint → String
  | .plain, .noNumber arg => arg ++ ": expected numeric value"
  | .plain, .notWhole arg => arg ++ ": not completely converted"
  | .plain, .outOfRange arg => arg ++ ": Numerical result out of range"
  | .plain, .noConversion place => String.ofList place ++ ": invalid directive"
  | .plain, .unfinished _ => "missing format character"
  | .rich, .noNumber arg => arg ++ ": invalid number"
  | .rich, .notWhole arg =>
    arg ++ ": invalid " ++ match (Decimal.sign (arg.toList.dropWhile isSpace)).2 with
      | '0' :: 'x' :: _ | '0' :: 'X' :: _ => "hex number"
      | '0' :: c :: _ => if c.isDigit then "octal number" else "number"
      | _ => "number"
  | .rich, .outOfRange arg => "warning: " ++ arg ++ ": Numerical result out of range"
  | .rich, .noConversion place =>
    "\x60" ++ String.ofList (place.drop (place.length - 1)) ++ "': invalid format character"
  | .rich, .unfinished place => "\x60" ++ String.ofList place ++ "': missing format character"

/-- What printing has come to. -/
structure Printed where
  bytes : List Char := []
  complaints : List Complaint := []
  status : Nat := 0
  /-- Whether the output ends here, whatever is left. -/
  ends : Bool := false

namespace Printed

/-- Puts bytes behind what was printed. -/
def add (p : Printed) (bytes : List Char) : Printed := { p with bytes := p.bytes ++ bytes }

/-- Complains about an argument that was printed all the same. -/
def complain (p : Printed) (complaint : Complaint) : Printed :=
  { p with complaints := p.complaints ++ [complaint], status := 1 }

/-- Ends with a complaint about the format. -/
def refuse (p : Printed) (complaint : Complaint) : Printed :=
  { p with complaints := p.complaints ++ [complaint], status := 2, ends := true }

end Printed

/-- Complains about an argument that is no numeral, or not as a whole. -/
def Printed.check (p : Printed) (arg : String) (taken : Bool) (rest : List Char) : Printed :=
  if rest.isEmpty then p
  else p.complain (if taken then .notWhole arg else .noNumber arg)

/-- The first byte of what follows a quotation mark, for which an argument stands. -/
def quotedByte? (arg : String) : Option Nat :=
  match arg.toList with
  | '\'' :: cs | '"' :: cs => some ((cs.head?.map Char.toNat).getD 0)
  | _ => none

/-- The least and the greatest number that an argument may stand for. A number that is
    written without a sign may still be given as the negative of one. -/
def integerBounds (signed : Bool) : Int × Int :=
  if signed then (-Nat.pow 2 63, Nat.pow 2 63 - 1) else (-(Nat.pow 2 64 - 1), Nat.pow 2 64 - 1)

/-- The whole number that an argument stands for, with a sign or without. -/
def integerOf (signed : Bool) (arg : String) (p : Printed) : Int × Printed :=
  match quotedByte? arg, Numeral.leading? true arg.toList with
  | some n, _ => (n, p)
  | none, none => (0, p.check arg false arg.toList)
  | none, some (i, rest) =>
    let (lo, hi) := integerBounds signed
    let p := if ¬ rest.isEmpty then p.check arg true rest
      else if lo ≤ i ∧ i ≤ hi then p
      else p.complain (.outOfRange arg)
    if signed then (max lo (min i hi), p)
    else (if i < lo then hi else if i < 0 then i + Nat.pow 2 64 else min i hi, p)

/-- The number with a fraction that an argument stands for. -/
def fractionOf (arg : String) (p : Printed) : Fraction.Reading × Printed :=
  match quotedByte? arg, Fraction.leading? (arg.toList.dropWhile isSpace) with
  | some n, _ => ({ value := .ofNat n }, p)
  | none, none => ({ value := .zero false }, p.check arg false arg.toList)
  | none, some (x, rest) =>
    if rest.isEmpty ∧ x.isOutOfRange then
      (x, p.complain (.outOfRange arg))
    else (x, p.check arg true rest)

/-- Reads a number or an asterisk, which takes it from the arguments. -/
def readCount (cs : List Char) (args : List String) (p : Printed) :
    Option Int × List Char × List String × Printed :=
  match cs with
  | '*' :: rest =>
    let (i, p) := integerOf true (args.head?.getD "") p
    (some i, rest, args.tail, p)
  | cs =>
    let digits := cs.takeWhile Char.isDigit
    (if digits.isEmpty then none else some (Decimal.valueOf digits), cs.drop digits.length, args, p)

/-- Whether a character can stand outside quotes in what is shown. -/
def isShownPlainly (c : Char) : Bool := decide (0x20 ≤ c.toNat ∧ c.toNat ≤ 0x7E)

/-- The escape of a character between single quotes behind a dollar sign. -/
def dollarEscape (c : Char) : String :=
  match c with
  | '\n' => "\\n"
  | '\t' => "\\t"
  | '\r' => "\\r"
  | '\x07' => "\\a"
  | '\x08' => "\\b"
  | '\x0b' => "\\v"
  | '\x0c' => "\\f"
  | '\x1b' => "\\E"
  | '\'' => "\\'"
  | '\\' => "\\\\"
  | c =>
    if isShownPlainly c then String.singleton c
    else
      let digits := Nat.toDigits 8 c.toNat
      "\\" ++ String.ofList (List.replicate (3 - digits.length) '0' ++ digits)

/-- A text between single quotes behind a dollar sign. -/
def dollarQuoted (s : String) : String :=
  "$'" ++ String.join (s.toList.map dollarEscape) ++ "'"

/-- The characters that have a meaning in the rich dialect. -/
def isMeaningful (c : Char) : Bool := " !\"$&'()*,;<>?[\\]^\x60\x7b|\x7d".toList.contains c

/-- A text with backslashes in front of its characters that have a meaning. -/
def escaped (s : String) : String :=
  if s.isEmpty then "''"
  else if ¬ s.toList.all isShownPlainly then dollarQuoted s
  else String.ofList <| s.toList.zipIdx.flatMap fun (c, i) =>
    if isMeaningful c || (i == 0 && (c == '#' || c == '~')) then ['\\', c] else [c]

/-- Prints an argument in a conversion; none if there is no such conversion. -/
def convert? (dialect : Dialect) (l : Layout) (conversion : Char) (arg : String) (p : Printed) :
    Option Printed :=
  let cut (bytes : List Char) : List Char := match l.precision with
    | some n => bytes.take n
    | none => bytes
  if conversion = 's' then some (p.add (l.padded (cut arg.toList)))
  else if conversion = 'c' then some (p.add (l.padded [arg.toList.head?.getD '\x00']))
  else if conversion = 'b' then
    let (bytes, ends) := argument arg dialect
    some { p.add (l.padded (cut bytes)) with ends }
  else if conversion = 'q' ∧ dialect = .rich then
    some (p.add (l.padded (cut (escaped arg).toList)))
  else if "diouxX".toList.contains conversion then
    let (i, p) := integerOf (conversion == 'd' || conversion == 'i') arg p
    some (p.add (l.integer conversion i))
  else if "aAeEfFgG".toList.contains conversion then
    let (x, p) := fractionOf arg p
    some (p.add (l.fraction conversion x))
  else none

/-- Prints the format once. -/
def once (dialect : Dialect) :
    Nat → List Char → List String → Printed → Printed × List String
  | 0, _, args, p => (p, args)
  | _, [], args, p => (p, args)
  | fuel + 1, '%' :: '%' :: rest, args, p => once dialect fuel rest args (p.add ['%'])
  | fuel + 1, '%' :: start, args, p =>
    let flags := start.takeWhile fun c => "-+ #0".toList.contains c
    let (width, rest, args, p) := readCount (start.drop flags.length) args p
    let (precision, rest, args, p) := match rest with
      | '.' :: rest =>
        let (n, rest, args, p) := readCount rest args p
        (some (n.getD 0).toNat, rest, args, p)
      | rest => (none, rest, args, p)
    let rest := if dialect = .rich then rest.dropWhile "hjlLtz".toList.contains else rest
    let place := '%' :: start.take (start.length - rest.length)
    match rest with
    | [] => (p.refuse (.unfinished place), args)
    | conversion :: rest =>
      match convert? dialect ⟨flags, width, precision⟩ conversion (args.head?.getD "") p with
      | none => (p.refuse (.noConversion (place ++ [conversion])), args)
      | some p => if p.ends then (p, args.tail) else once dialect fuel rest args.tail p
  | fuel + 1, '\\' :: rest, args, p =>
    let (bytes, n) := escapeIn dialect rest
    once dialect fuel (rest.drop n) args (p.add bytes)
  | fuel + 1, c :: rest, args, p => once dialect fuel rest args (p.add [c])

/-- Prints the format until there are no arguments left. -/
def repeated (dialect : Dialect) (format : List Char) : Nat → List String → Printed → Printed
  | 0, _, p => p
  | fuel + 1, args, p =>
    let (p, left) := once dialect (format.length + 1) format args p
    if p.ends || left.isEmpty || left.length == args.length then p
    else repeated dialect format fuel left p

/-- Prints arguments in a format. -/
def print (dialect : Dialect) (format : String) (args : List String) : Printed :=
  repeated dialect format.toList (args.length + 1) args {}

end SimSweep.Shell.Format
