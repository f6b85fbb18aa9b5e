import SimSweep.Tool.Deed

/-! # Words of programs for records

    A program is split into numbers, texts, regular expressions, names and marks. A slash
    starts a regular expression unless it stands behind something that has a value.
-/

namespace SimSweep.Tool.Awk

/-- A word of a program. -/
inductive Token where
  | number (x : Float) (written : String)
  | text (s : String)
  | regex (cs : List Char)
  | name (s : String)
  /-- A name right in front of an opening parenthesis. -/
  | function (s : String)
  | keyword (s : String)
  | builtin (s : String)
  | mark (s : String)
  | newline
  deriving BEq

instance : Inhabited Token := ⟨.newline⟩

namespace Token

/-- The words with a meaning of their own. -/
def keywords : List String :=
  ["BEGIN", "END", "function", "func", "if", "else", "while", "for", "do", "in", "break", "continue",
   "next", "nextfile", "exit", "return", "delete", "print", "printf", "getline"]

/-- The names of functions that are there from the start. -/
def builtins : List String :=
  ["length", "substr", "index", "split", "sub", "gsub", "match", "sprintf", "sin", "cos", "atan2",
   "exp", "log", "sqrt", "int", "rand", "srand", "tolower", "toupper", "system", "close", "fflush"]

/-- The marks, where longer ones are in front of the ones that they start with. -/
def marks : List String :=
  ["&&", "||", "==", "<=", ">=", "!=", "++", "--", "+=", "-=", "*=", "/=", "%=", "^=", "!~", ">>",
   "\x7b", "\x7d", "(", ")", "[", "]", ";", ",", "+", "-", "*", "/", "%", "^", "!", ">", "<", "|",
   "?", ":", "~", "$", "="]

/-- How a word is written in a complaint. -/
def written : Token → String
  | .number _ s | .name s | .function s | .keyword s | .builtin s | .mark s => s
  | .text s => "\"" ++ s ++ "\""
  | .regex cs => "/" ++ String.ofList cs ++ "/"
  | .newline => "end of line"

/-- Whether a word ends something that has a value, so that a slash is a mark behind
    it. -/
def hasValue : Token → Bool
  | .number _ _ | .text _ | .regex _ | .name _ => true
  | .builtin s => s == "length"
  | .mark s => [")", "]", "$", "++", "--"].contains s
  | _ => false

end Token

/-! ## Section 1: Numbers and texts -/

/-- The longest start of a text that is a number in decimal digits, and what follows
    it. -/
def leadingDecimal? (cs : List Char) : Option (Float × List Char) :=
  let whole := cs.takeWhile Char.isDigit
  let behind := cs.drop whole.length
  let (part, rest) := match behind with
    | '.' :: more => (more.takeWhile Char.isDigit, more.dropWhile Char.isDigit)
    | _ => ([], behind)
  if whole.isEmpty ∧ part.isEmpty then none
  else
    let (exponent, rest) : Int × List Char := match rest with
      | e :: more =>
        if e = 'e' ∨ e = 'E' then
          let (isBelow, digits) := Decimal.sign more
          let ds := digits.takeWhile Char.isDigit
          if ds.isEmpty then (0, rest)
          else
            let n : Int := min (Decimal.valueOf ds) 5000
            (if isBelow then -n else n, digits.drop ds.length)
        else (0, rest)
      | [] => (0, rest)
    let m := Decimal.valueOf (whole ++ part)
    let e := exponent - part.length
    some (Float.ofScientific m (decide (e < 0)) e.natAbs, rest)

/-- The longest start of a text that is a number, and what follows it. -/
def leadingNumber? (cs : List Char) : Option (Float × List Char) :=
  let (isNegative, body) := Decimal.sign cs
  let signed (x : Float) : Float := if isNegative then -x else x
  let hexDigit (c : Char) : Bool := c.isDigit || "abcdefABCDEF".toList.contains c
  let value (c : Char) : Nat :=
    if c.isDigit then c.toNat - '0'.toNat else c.toLower.toNat - 'a'.toNat + 10
  match body with
  | '0' :: 'x' :: d :: rest =>
    if hexDigit d then
      let ds := (d :: rest).takeWhile hexDigit
      let n := ds.foldl (fun n c => 16 * n + value c) 0
      some (signed (Float.ofNat n), (d :: rest).drop ds.length)
    else some (signed 0, 'x' :: d :: rest)
  | _ =>
    match leadingDecimal? body with
    | some (x, rest) => some (signed x, rest)
    | none =>
      let word := (body.take 3).map Char.toLower
      if word = ['n', 'a', 'n'] then some (signed (0.0 / 0.0), body.drop 3)
      else if word = ['i', 'n', 'f'] then some (signed (1.0 / 0.0), body.drop 3)
      else none

/-- The characters of a text with escapes. -/
def unescape : Nat → List Char → List Char
  | 0, _ => []
  | _, [] => []
  | fuel + 1, '\\' :: c :: rest =>
    let put (d : Char) : List Char := d :: unescape fuel rest
    match c with
    | '"' => put '"'
    | '\\' => put '\\'
    | 'a' => put '\x07'
    | 'b' => put '\x08'
    | 'f' => put '\x0c'
    | 'n' => put '\n'
    | 'r' => put '\r'
    | 't' => put '\t'
    | 'v' => put '\x0b'
    | '\n' => unescape fuel rest
    | c =>
      let isOctal (c : Char) : Bool := '0' ≤ c && c ≤ '7'
      if isOctal c then
        let ds := ((c :: rest).take 3).takeWhile isOctal
        Char.ofNat (Nat.ofDigitChars 8 ds 0 % 256) :: unescape fuel ((c :: rest).drop ds.length)
      else '\\' :: put c
  | fuel + 1, c :: rest => c :: unescape fuel rest

/-! ## Section 2: Splitting -/

/-- Why a text cannot be read as a program. -/
structure Flaw where
  /-- Whether the number of the line has the word for it in front. -/
  hasWord : Bool := true
  line : Nat
  message : String

/-- The characters up to a mark that has no backslash in front, and what follows it. -/
def upTo (mark : Char) : List Char → Option (List Char × List Char)
  | [] => none
  | '\\' :: c :: rest => (upTo mark rest).map fun (cs, after) => ('\\' :: c :: cs, after)
  | c :: rest =>
    if c = mark then some ([], rest)
    else if c = '\n' then none
    else (upTo mark rest).map fun (cs, after) => (c :: cs, after)

/-- The characters of a regular expression up to a slash that is in no set, and what
    follows it. -/
def upToSlash : Bool → Bool → List Char → Option (List Char × List Char)
  | _, _, [] => none
  | inSet, _, '\\' :: c :: rest =>
    (upToSlash inSet false rest).map fun (cs, after) => ('\\' :: c :: cs, after)
  | inSet, isFirst, c :: rest =>
    if c = '\n' then none
    else if c = '/' ∧ ¬ inSet then some ([], rest)
    else
      let opens := !inSet && c == '['
      let staysIn := inSet && (c != ']' || isFirst)
      let isNegation := isFirst && c == '^'
      (upToSlash (opens || staysIn) (opens || isNegation) rest).map fun (cs, after) =>
        (c :: cs, after)

/-- Whether a character may stand in a name. -/
def isNameChar (c : Char) : Bool := c.isAlphanum || c == '_'

/-- Splits a program into words with their lines. The first number bounds the words. -/
def tokensOf : Nat → Nat → Option Token → List Char → Except Flaw (List (Token × Nat))
  | 0, _, _, _ => return []
  | _, _, _, [] => return []
  | fuel + 1, line, last, c :: rest => do
    let put (t : Token) (rest : List Char) : Except Flaw (List (Token × Nat)) :=
      return (t, line) :: (← tokensOf fuel line (some t) rest)
    let cutShort (cs : List Char) : String :=
      String.ofList ((cs.takeWhile (· ≠ '\n')).take 10) ++ " ..."
    if c = ' ' ∨ c = '\t' ∨ c = '\r' then tokensOf fuel line last rest
    else if c = '\n' then
      return (.newline, line) :: (← tokensOf fuel (line + 1) (some .newline) rest)
    else if c = '#' then tokensOf fuel line last (rest.dropWhile (· ≠ '\n'))
    else if c = '\\' ∧ rest.head? = some '\n' then tokensOf fuel (line + 1) last (rest.drop 1)
    else if c = '"' then
      match upTo '"' rest with
      | some (cs, after) => put (.text (String.ofList (unescape (cs.length + 1) cs))) after
      | none => throw { line, message := "runaway string constant \"" ++ cutShort rest }
    else if c = '/' ∧ ¬ last.any Token.hasValue then
      match upToSlash false false rest with
      | some (cs, after) => put (.regex (withoutSlashes cs)) after
      | none => throw { line, message := "runaway regular expression /" ++ cutShort rest }
    else if c.isDigit ∨ (c = '.' ∧ rest.head?.any Char.isDigit) then
      match leadingDecimal? (c :: rest) with
      | some (x, after) =>
        put (.number x (String.ofList ((c :: rest).take (rest.length + 1 - after.length)))) after
      | none => tokensOf fuel line last rest
    else if c.isAlpha ∨ c = '_' then
      let cs := (c :: rest).takeWhile isNameChar
      let after := (c :: rest).drop cs.length
      let s := String.ofList cs
      if Token.keywords.contains s then put (.keyword s) after
      else if Token.builtins.contains s then put (.builtin s) after
      else if after.head? = some '(' then put (.function s) after
      else put (.name s) after
    else match Token.marks.find? fun m => m.toList.isPrefixOf (c :: rest) with
      | some m => put (.mark m) ((c :: rest).drop m.length)
      | none =>
        throw { hasWord := false, line
                message := "unexpected character '" ++ String.singleton c ++ "'" }
where
  /-- A regular expression in which a slash needs no backslash. -/
  withoutSlashes : List Char → List Char
    | '\\' :: '/' :: rest => '/' :: withoutSlashes rest
    | '\\' :: c :: rest => '\\' :: c :: withoutSlashes rest
    | c :: rest => c :: withoutSlashes rest
    | [] => []

end SimSweep.Tool.Awk
