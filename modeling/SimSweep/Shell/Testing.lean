import SimSweep.Shell.Condition
import SimSweep.Shell.Subject
import SimSweep.Shell.Token

/-! # Testing

    Conditions of the rich dialect, as the words of a command. How they are read depends
    on how many words there are.
-/

namespace SimSweep.Shell.Testing

open Kernel

/-- Why a condition cannot be decided. -/
inductive Fault where
  | noNumber (word : String)
  | noUnary (word : String)
  | noBinary (word : String)
  | unclosed
  | tooMany
  | argumentExpected
  deriving DecidableEq

/-- The wording of a fault. -/
def Fault.message : Fault → String
  | .noNumber word => word ++ ": integer expression expected"
  | .noUnary word => word ++ ": unary operator expected"
  | .noBinary word => word ++ ": binary operator expected"
  | .unclosed => "\x60)' expected"
  | .tooMany => "too many arguments"
  | .argumentExpected => "argument expected"

/-- What conditions are about. -/
structure Setting where
  world : World
  machine : Machine

/-- Whether a variable or an element is set. -/
def isSet (m : Machine) (name : String) : Bool :=
  match splitSubscript name with
  | (base, none) => (m.parameter? base).isSome
  | (base, some subscript) =>
    let e := m.elementsOf base
    if subscript = "@" ∨ subscript = "*" then !e.items.isEmpty else (e.get? subscript).isSome

/-- Decides an operator on one word. -/
def unary (s : Setting) (operator word : String) : Bool :=
  match operator with
  | "-n" => !word.isEmpty
  | "-z" => word.isEmpty
  | "-t" | "-R" => false
  | "-v" => isSet s.machine word
  | "-o" => s.machine.isOn word
  | "-a" => Condition.onFile s.world 'e' word
  | o => Condition.onFile s.world ((o.toList.drop 1).head?.getD ' ') word

/-- Whether a word is an operator on one word. -/
def isUnary (word : String) : Bool := testOperators.contains word

/-- The operators on two words. -/
def binaryOperators : List String := ["=", "==", "!=", "<", ">"] ++ testRelations

/-- Whether a relation holds between two numbers. -/
def compares (operator : String) (i j : Int) : Bool :=
  match operator with
  | "-eq" => i == j
  | "-ne" => i != j
  | "-lt" => decide (i < j)
  | "-le" => decide (i ≤ j)
  | "-gt" => decide (j < i)
  | _ => decide (j ≤ i)

/-- Decides an operator on two words that are no numbers. -/
def relates (s : Setting) (operator a b : String) : Bool :=
  match operator with
  | "=" | "==" => a == b
  | "!=" => a != b
  | "<" => decide (a < b)
  | ">" => decide (b < a)
  | "-nt" => Condition.isNewer s.world a b
  | "-ot" => Condition.isNewer s.world b a
  | _ => Condition.isSame s.world a b

/-- Whether an operator compares numbers. -/
def isNumeric (operator : String) : Bool :=
  ["-eq", "-ne", "-lt", "-le", "-gt", "-ge"].contains operator

/-- The number of a word. -/
def numberOf (word : String) : Except Fault Int :=
  match Numeral.integer? word with
  | some i => .ok i
  | none => .error (.noNumber word)

/-- Decides an operator on two words. -/
def binary (s : Setting) (operator a b : String) : Except Fault Bool := do
  if isNumeric operator then return compares operator (← numberOf a) (← numberOf b)
  else return relates s operator a b

mutual

/-- Decides a disjunction; the result has the words that are left. -/
def decideAny (s : Setting) : Nat → List String → Except Fault (Bool × List String)
  | 0, words => .ok (false, words)
  | fuel + 1, words => do
    let (a, rest) ← decideAll s fuel words
    match rest with
    | "-o" :: more => do
      let (b, rest) ← decideAny s fuel more
      return (a || b, rest)
    | rest => return (a, rest)

/-- Decides a conjunction. -/
def decideAll (s : Setting) : Nat → List String → Except Fault (Bool × List String)
  | 0, words => .ok (false, words)
  | fuel + 1, words => do
    let (a, rest) ← decideOne s fuel words
    match rest with
    | "-a" :: more => do
      let (b, rest) ← decideAll s fuel more
      return (a && b, rest)
    | rest => return (a, rest)

/-- Decides a condition without conjunctions and disjunctions outside parentheses. -/
def decideOne (s : Setting) : Nat → List String → Except Fault (Bool × List String)
  | 0, words => .ok (false, words)
  | fuel + 1, words =>
    match words with
    | [] => .error .argumentExpected
    | "!" :: rest => do
      let (a, rest) ← decideOne s fuel rest
      return (!a, rest)
    | "(" :: rest => do
      let (a, rest) ← decideAny s fuel rest
      match rest with
      | ")" :: rest => return (a, rest)
      | _ => throw .unclosed
    | a :: o :: b :: rest =>
      if binaryOperators.contains o then (binary s o a b).map (·, rest)
      else if isUnary a then .ok (unary s a o, b :: rest)
      else .ok (!a.isEmpty, o :: b :: rest)
    | [o, a] =>
      if isUnary o then .ok (unary s o a, [])
      else if o.startsWith "-" then .error (.noUnary o)
      else .ok (!o.isEmpty, [a])
    | [a] => .ok (!a.isEmpty, [])

end

/-- Decides a condition of two words. -/
def decideTwo (s : Setting) (a b : String) : Except Fault Bool :=
  if a = "!" then .ok b.isEmpty
  else if isUnary a then .ok (unary s a b)
  else .error (.noUnary a)

/-- Decides a condition of three words. -/
def decideThree (s : Setting) (a o b : String) : Except Fault Bool :=
  if binaryOperators.contains o then binary s o a b
  else if o = "-a" then .ok (!a.isEmpty && !b.isEmpty)
  else if o = "-o" then .ok (!a.isEmpty || !b.isEmpty)
  else if a = "!" then (decideTwo s o b).map (!·)
  else if a = "(" ∧ b = ")" then .ok (!o.isEmpty)
  else .error (.noBinary o)

/-- Decides the condition that some words state. -/
def holds (s : Setting) (words : List String) : Except Fault Bool :=
  let all : Except Fault Bool := do
    let (a, rest) ← decideAny s (4 * words.length + 4) words
    if rest.isEmpty then return a else throw .tooMany
  match words with
  | [] => .ok false
  | [a] => .ok (!a.isEmpty)
  | [a, b] => decideTwo s a b
  | [a, o, b] => decideThree s a o b
  | [a, b, c, d] =>
    if a = "!" then (decideThree s b c d).map (!·)
    else if a = "(" ∧ d = ")" then decideTwo s b c
    else all
  | _ => all

end SimSweep.Shell.Testing
