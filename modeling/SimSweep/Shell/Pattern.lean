import SimSweep.Shell.Numeral
import SimSweep.Shell.Tree

/-! # Patterns

    A pattern is a text in which an asterisk stands for any characters, a question
    mark for one, and brackets for one of a set, as far as they are not quoted.
-/

namespace SimSweep.Shell

/-- A text in which some characters have no meaning but their own. -/
abbrev Marked := List (Char × Bool)

/-- The text without its marks. -/
def Marked.chars (m : Marked) : List Char := m.map Prod.fst

/-- The classes of characters that have names. -/
def isOfClass (name : String) (c : Char) : Bool :=
  if name = "digit" then c.isDigit
  else if name = "alpha" then c.isAlpha
  else if name = "alnum" then c.isAlphanum
  else if name = "upper" then c.isUpper
  else if name = "lower" then c.isLower
  else if name = "space" then isSpace c
  else if name = "blank" then c == ' ' || c == '\t'
  else if name = "xdigit" then c.isDigit || "abcdefABCDEF".toList.contains c
  else if name = "punct" then
    decide (0x21 ≤ c.toNat ∧ c.toNat ≤ 0x7E) && !c.isAlphanum
  else if name = "graph" then decide (0x21 ≤ c.toNat ∧ c.toNat ≤ 0x7E)
  else if name = "print" then decide (0x20 ≤ c.toNat ∧ c.toNat ≤ 0x7E)
  else if name = "cntrl" then decide (c.toNat < 0x20) || c.toNat == 0x7F
  else false

/-- The code of a byte as a number of eight bits with a sign. -/
def signedCode (c : Char) : Int := if c.toNat < 128 then c.toNat else (c.toNat : Int) - 256

namespace Pattern

/-- Whether a character is in a set, and what follows its closing bracket; none if it
    has no end. The first member may be a bracket itself. The number bounds the members
    that are looked at. -/
def members? (c : Char) : Nat → Bool → Marked → Option (Bool × Marked)
  | 0, _, _ => none
  | _, _, [] => none
  | fuel + 1, isFirst, (']', false) :: rest =>
    if isFirst then member c fuel ']' rest else some (false, rest)
  | fuel + 1, _, ('[', false) :: (':', false) :: rest =>
    let name := (rest.takeWhile fun (d, _) => d != ':').map Prod.fst
    match rest.drop name.length with
    | (':', _) :: (']', _) :: after =>
      (members? c fuel false after).map fun (found, rest) =>
        (found || isOfClass (String.ofList name) c, rest)
    | _ => member c fuel '[' ((':', false) :: rest)
  | fuel + 1, _, ('\\', false) :: (d, _) :: rest => member c fuel d rest
  | fuel + 1, _, (d, _) :: rest => member c fuel d rest
where
  /-- Whether a character is the one given, or between it and the end of a range, or
      in the rest of the set. -/
  member (c : Char) (fuel : Nat) (d : Char) (rest : Marked) : Option (Bool × Marked) :=
    match fuel, rest with
    | 0, _ => none
    | fuel + 1, ('-', false) :: (e, q) :: after =>
      if e = ']' ∧ ¬ q then
        (members? c fuel false rest).map fun (found, rest) => (found || c == d, rest)
      else
        let (e, after) := match e, q, after with
          | '\\', false, (e, _) :: after => (e, after)
          | e, _, after => (e, after)
        (members? c fuel false after).map fun (found, rest) =>
          (found || decide (signedCode d ≤ signedCode c ∧ signedCode c ≤ signedCode e), rest)
    | fuel + 1, _ =>
      (members? c fuel false rest).map fun (found, rest) => (found || c == d, rest)

/-- The set behind an opening bracket: whether a character is in it, and what follows
    it. An exclamation mark in front excludes the members. -/
def set? (c : Char) (p : Marked) : Option (Bool × Marked) :=
  match p with
  | ('!', false) :: rest =>
    (members? c (2 * p.length) true rest).map fun (found, after) => (!found, after)
  | _ => members? c (2 * p.length) true p

/-- Whether a text fits a pattern as a whole. The number bounds the steps. -/
def fits : Nat → Marked → List Char → Bool
  | 0, _, _ => false
  | _, [], cs => cs.isEmpty
  | fuel + 1, ('*', false) :: p, cs =>
    fits fuel p cs || match cs with
      | [] => false
      | _ :: cs => fits fuel (('*', false) :: p) cs
  | fuel + 1, ('?', false) :: p, cs =>
    match cs with
    | [] => false
    | _ :: cs => fits fuel p cs
  | fuel + 1, ('[', false) :: p, cs =>
    match cs with
    | [] => false
    | c :: cs =>
      match set? c p with
      | some (found, after) => found && fits fuel after cs
      | none => c == '[' && fits fuel p cs
  | fuel + 1, ('\\', false) :: (d, _) :: p, cs => literal fuel d p cs
  | fuel + 1, (d, _) :: p, cs => literal fuel d p cs
where
  /-- Whether a text starts with a character and the rest fits the rest of a pattern. -/
  literal (fuel : Nat) (d : Char) (p : Marked) (cs : List Char) : Bool :=
    match cs with
    | [] => false
    | c :: cs => d == c && fits fuel p cs

/-- Whether a text fits a pattern as a whole. -/
def accepts (p : Marked) (cs : List Char) : Bool := fits (p.length + cs.length + 1) p cs

/-- The number of characters at the start of a text that a pattern fits: the most,
    or the fewest. -/
def startLength? (longest : Bool) (p : Marked) (cs : List Char) : Option Nat :=
  let lengths := List.range (cs.length + 1)
  (if longest then lengths.reverse else lengths).find? fun n => accepts p (cs.take n)

/-- A text without a match at its start or at its end. -/
def trim (atEnd longest : Bool) (p : Marked) (cs : List Char) : List Char :=
  if atEnd then
    let starts := List.range (cs.length + 1)
    match (if longest then starts else starts.reverse).find? fun n => accepts p (cs.drop n) with
    | some n => cs.take n
    | none => cs
  else match startLength? longest p cs with
    | some n => cs.drop n
    | none => cs

/-- The characters with which a match is exchanged. An ampersand that is not quoted
    stands for the match. -/
def inserted (replacement : Marked) (found : List Char) : List Char :=
  replacement.flatMap fun (c, quoted) => if c = '&' ∧ ¬ quoted then found else [c]

/-- A text in which matches of a pattern are exchanged, each the longest one from its
    place on: only the first, or all. The number bounds the characters. -/
def exchangeIn (all : Bool) (p replacement : Marked) : Nat → List Char → List Char
  | 0, cs => cs
  | _, [] => []
  | fuel + 1, c :: cs =>
    match startLength? true p (c :: cs) with
    | some (n + 1) =>
      let rest := (c :: cs).drop (n + 1)
      inserted replacement ((c :: cs).take (n + 1)) ++
        (if all then exchangeIn all p replacement fuel rest else rest)
    | _ => c :: exchangeIn all p replacement fuel cs

/-- A text in which matches of a pattern are exchanged. -/
def exchange (place : Place) (p replacement : Marked) (cs : List Char) : List Char :=
  match place with
  | .first => if p.isEmpty then cs else exchangeIn false p replacement (cs.length + 1) cs
  | .every => if p.isEmpty then cs else exchangeIn true p replacement (cs.length + 1) cs
  | .start =>
    match startLength? true p cs with
    | some n => inserted replacement (cs.take n) ++ cs.drop n
    | none => cs
  | .finish =>
    let rest := trim true true p cs
    if rest.length < cs.length ∨ accepts p [] then
      rest ++ inserted replacement (cs.drop rest.length)
    else cs

/-- A text with the characters that fit a pattern in capital letters, or in small ones:
    all of them, or the first character. No pattern fits any. -/
def recase (isUpper all : Bool) (p : Marked) (cs : List Char) : List Char :=
  let change (c : Char) : Char :=
    if p.isEmpty || accepts p [c] then (if isUpper then c.toUpper else c.toLower) else c
  match cs with
  | [] => []
  | c :: rest => if all then (c :: rest).map change else change c :: rest

end Pattern

/-- A pattern of the rich dialect, in which a set may also be excluded by a caret. -/
def Marked.rich : Marked → Marked
  | ('[', false) :: ('^', false) :: rest => ('[', false) :: ('!', false) :: Marked.rich rest
  | c :: rest => c :: Marked.rich rest
  | [] => []

end SimSweep.Shell
