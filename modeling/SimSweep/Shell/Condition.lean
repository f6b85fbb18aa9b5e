import SimSweep.Kernel.World
import SimSweep.Shell.Numeral

/-! # Conditions

    What the command `test` tests: texts, whole numbers and files, combined with
    negation, conjunction and disjunction.
-/

namespace SimSweep.Shell.Condition

open Kernel

/-- Why a condition cannot be decided. -/
inductive Fault where
  | illegalNumber (value : String)
  | unexpectedOperator (word : String)
  | argumentExpected (operator : String)
  | closingExpected
  deriving DecidableEq

/-- The wording of a fault. -/
def Fault.message : Fault → String
  | .illegalNumber value => "Illegal number: " ++ value
  | .unexpectedOperator word =>
    if word.isEmpty then "unexpected operator" else word ++ ": unexpected operator"
  | .argumentExpected operator => operator ++ ": argument expected"
  | .closingExpected => "closing paren expected"

/-- The operators on one text. -/
def unaryOperators : List String :=
  ["-n", "-z", "-e", "-f", "-d", "-r", "-w", "-x", "-s", "-c", "-b", "-h", "-L", "-p", "-S", "-t",
   "-u", "-g", "-k", "-O", "-G"]

/-- The operators on two texts. -/
def binaryOperators : List String :=
  ["=", "!=", "<", ">", "-eq", "-ne", "-lt", "-le", "-gt", "-ge", "-nt", "-ot", "-ef"]

/-- The number that a word denotes. -/
def numberOf (s : String) : Except Fault Int :=
  match Numeral.integer? s with
  | some i => .ok i
  | none => .error (.illegalNumber s)

/-- Whether one of the bits is among the permissions of a file. -/
def hasMode (bits : Nat) (node : Node) : Bool := node.mode &&& bits != 0

/-- The length of the contents of a file. -/
def sizeOf (node : Node) : Nat :=
  match node.content with
  | .regular bytes => bytes.size
  | .program _ | .directory _ _ => 4096
  | .link target => target.length
  | _ => 0

/-- Decides an operator on the file of a path. -/
def onFile (w : World) (operator : Char) (path : String) : Bool :=
  let follows := operator != 'h' && operator != 'L'
  match w.find path follows with
  | .error _ => false
  | .ok id =>
    match w.files.node? id with
    | none => false
    | some node =>
      match operator, node.content with
      | 'e', _ | 'r', _ | 'w', _ | 'O', _ | 'G', _ => true
      | 'x', c => c.isDirectory || hasMode 0o111 node
      | 'f', .regular _ | 'f', .program _ => true
      | 'd', .directory _ _ => true
      | 's', _ => sizeOf node != 0
      | 'c', .device _ => true
      | 'p', .pipe _ => true
      | 'p', .descriptor n =>
        match w.handle? n with
        | some (_, h) => (h.target matches .source _) || (h.target matches .drain _)
        | none => false
      | 'h', .link _ | 'L', .link _ => true
      | 'u', _ => hasMode 0o4000 node
      | 'g', _ => hasMode 0o2000 node
      | 'k', _ => hasMode 0o1000 node
      | _, _ => false

/-- Decides an operator on one text. -/
def unary (w : World) (operator s : String) : Except Fault Bool :=
  match operator with
  | "-n" => .ok (!s.isEmpty)
  | "-z" => .ok s.isEmpty
  | "-t" => do
    let _ ← numberOf s
    return false
  | o => .ok (onFile w ((o.toList.drop 1).head?.getD ' ') s)

/-- When the file of a path was last changed. -/
def modified? (w : World) (path : String) : Option Int :=
  match w.find path with
  | .ok id => (w.files.node? id).map (·.modified)
  | .error _ => none

/-- Whether the first of two files was changed later than the second. -/
def isNewer (w : World) (a b : String) : Bool :=
  match modified? w a, modified? w b with
  | some s, some t => decide (t < s)
  | _, _ => false

/-- Whether two paths lead to the same file. -/
def isSame (w : World) (a b : String) : Bool :=
  match w.find a, w.find b with
  | .ok i, .ok j => i == j
  | _, _ => false

/-- Decides an operator on two texts. -/
def binary (w : World) (operator a b : String) : Except Fault Bool :=
  let numbers (f : Int → Int → Bool) : Except Fault Bool := do
    return f (← numberOf a) (← numberOf b)
  match operator with
  | "=" => .ok (a == b)
  | "!=" => .ok (a != b)
  | "<" => .ok (decide (a < b))
  | ">" => .ok (decide (b < a))
  | "-eq" => numbers fun i j => i == j
  | "-ne" => numbers fun i j => i != j
  | "-lt" => numbers fun i j => decide (i < j)
  | "-le" => numbers fun i j => decide (i ≤ j)
  | "-gt" => numbers fun i j => decide (j < i)
  | "-ge" => numbers fun i j => decide (j ≤ i)
  | "-nt" => .ok (isNewer w a b)
  | "-ot" => .ok (isNewer w b a)
  | "-ef" => .ok (isSame w a b)
  | _ => .ok false

/-- The part that a word plays in a condition. -/
inductive Part where
  | operand
  | unary
  | binary
  | negation
  | conjunction
  | disjunction
  | opening
  | closing
  /-- There is no word. -/
  | missing
  deriving DecidableEq

/-- The part of a word taken by itself. -/
def partOf (s : String) : Part :=
  if unaryOperators.contains s then .unary
  else if binaryOperators.contains s then .binary
  else match s with
    | "!" => .negation
    | "-a" => .conjunction
    | "-o" => .disjunction
    | "(" => .opening
    | ")" => .closing
    | _ => .operand

/-- The part of the first of some words. An operator on one text that has none
    behind it, or an operator on two texts and a further word, is an operand itself;
    so is an opening parenthesis at the end. -/
def firstPart : List String → Part
  | [] => .missing
  | s :: rest =>
    match partOf s, rest with
    | .unary, [] => .operand
    | .unary, o :: _ :: _ => if partOf o = .binary then .operand else .unary
    | .opening, [] => .operand
    | p, _ => p

/-- A decision, and the words from the last one on that it took. -/
abbrev Decision := Except Fault (Bool × List String)

mutual

/-- Decides a disjunction; `part` is the part of the first word. -/
def decideAny (w : World) : Nat → Part → List String → Decision
  | 0, _, words => .ok (false, words)
  | fuel + 1, part, words => do
    let (a, words) ← decideAll w fuel part words
    if firstPart words.tail = .disjunction then
      let next := words.drop 2
      let (b, words) ← decideAny w fuel (firstPart next) next
      return (a || b, words)
    else return (a, words)

/-- Decides a conjunction. -/
def decideAll (w : World) : Nat → Part → List String → Decision
  | 0, _, words => .ok (false, words)
  | fuel + 1, part, words => do
    let (a, words) ← decideNegated w fuel part words
    if firstPart words.tail = .conjunction then
      let next := words.drop 2
      let (b, words) ← decideAll w fuel (firstPart next) next
      return (a && b, words)
    else return (a, words)

/-- Decides a condition with negations in front of it. -/
def decideNegated (w : World) : Nat → Part → List String → Decision
  | 0, _, words => .ok (false, words)
  | fuel + 1, part, words => do
    if part = .negation then
      let next := firstPart words.tail
      let words := if next = .missing then words else words.tail
      let (a, words) ← decideNegated w fuel next words
      return (!a, words)
    else decideOne w fuel part words

/-- Decides a condition without negations, conjunctions and disjunctions outside
    parentheses. -/
def decideOne (w : World) : Nat → Part → List String → Decision
  | 0, _, words => .ok (false, words)
  | fuel + 1, part, words =>
    match part, words with
    | .missing, words => .ok (false, words)
    | .opening, _ :: inner => do
      if firstPart inner = .closing then return (false, inner)
      let (a, words) ← decideAny w fuel (firstPart inner) inner
      if firstPart words.tail = .closing then return (a, words.tail)
      else throw .closingExpected
    | .unary, o :: s :: rest => do return (← unary w o s, s :: rest)
    | .unary, o :: [] => .error (.argumentExpected o)
    | _, a :: o :: rest =>
      if partOf o = .binary then
        match rest with
        | [] => .error (.argumentExpected o)
        | b :: rest => do return (← binary w o a b, b :: rest)
      else .ok (!a.isEmpty, words)
    | _, a :: [] => .ok (!a.isEmpty, [a])
    | _, [] => .ok (false, [])

end

/-- Decides the condition that some words state, of which the part of the first is
    known. All of them have to be part of it. -/
def decideAs (w : World) (part : Part) (words : List String) :
    Except Fault Bool := do
  let (a, words) ← decideAny w (4 * words.length + 4) part words
  match words with
  | word :: _ :: _ => throw (.unexpectedOperator word)
  | _ => return a

/-- Decides the condition that some words state. No words state a falsehood. With
    three words, an operator between two texts goes before everything else; with
    three or four, a negation, or parentheses around all of them, come next. -/
def holds (w : World) (words : List String) : Except Fault Bool :=
  go false words
where
  /-- Decides the words, or their negation. -/
  go (negated : Bool) (words : List String) : Except Fault Bool :=
    let plain (part : Part) (words : List String) : Except Fault Bool :=
      (decideAs w part words).map (xor negated)
    match words with
    | [] => .ok negated
    | first :: rest =>
      if words.length = 3 ∧ rest.head?.any (partOf · = .binary) then plain .operand words
      else if words.length = 3 ∨ words.length = 4 then
        if first = "(" ∧ rest.getLast? = some ")" then
          plain (firstPart rest.dropLast) rest.dropLast
        else if first = "!" then go true rest
        else plain (firstPart words) words
      else plain (firstPart words) words

end SimSweep.Shell.Condition
