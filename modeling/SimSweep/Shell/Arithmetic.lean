import SimSweep.Shell.Numeral
import SimSweep.Text.Integer

/-! # Shell arithmetic

    Expressions over whole numbers of 64 bits with a sign, which wrap around. A
    name stands for the number in a variable, and one that is not set for zero. An
    expression is evaluated while it is read; a part of it whose value does not matter
    is read all the same, but neither looked up nor assigned.
-/

namespace SimSweep.Shell.Arithmetic

/-- Why an expression has no value. -/
inductive Fault where
  | primaryExpected
  | parenthesisExpected
  | colonExpected
  | endExpected
  | divisionByZero
  | illegalNumber (value : String)
  /-- The quotient does not fit 64 bits. -/
  | overflow
  deriving DecidableEq

/-- The wording of a fault in the text of an expression. -/
def Fault.message (expression : String) : Fault → String
  | .primaryExpected => within "expecting primary"
  | .parenthesisExpected => within "expecting ')'"
  | .colonExpected => within "expecting ':'"
  | .endExpected => within "expecting EOF"
  | .divisionByZero => within "division by zero"
  | .overflow => within "overflow"
  | .illegalNumber value => "Illegal number: " ++ value
where
  /-- A message with the expression that it is about. -/
  within (s : String) : String := "arithmetic expression: " ++ s ++ ": \"" ++ expression ++ "\""

/-- What an expression is made of. -/
inductive Token where
  | number (n : Int)
  | name (s : String)
  | operator (s : String)
  /-- A character that stands in no expression. -/
  | other
  | finish
  deriving DecidableEq

/-- The number in 64 bits with a sign that a whole number wraps around to. -/
def wrap (i : Int) : Int := (Int64.ofInt i).toInt

/-! ## Section 1: Tokens -/

/-- The operators, longer ones first. -/
def operators : List String :=
  ["<<=", ">>=", "<<", ">>", "<=", ">=", "==", "!=", "&&", "||", "+=", "-=", "*=", "/=", "%=",
   "&=", "^=", "|=", "+", "-", "*", "/", "%", "<", ">", "=", "!", "~", "&", "^", "|", "?", ":",
   "(", ")"]

/-- The tokens of a text, of which nothing is looked at behind a character that
    stands in no expression. The number bounds how many there are. -/
def tokens : Nat → List Char → List Token
  | 0, _ => []
  | _, [] => []
  | fuel + 1, c :: cs =>
    if c = ' ' ∨ c = '\t' ∨ c = '\n' then tokens fuel cs
    else if c.isDigit then
      match Numeral.leading? true (c :: cs) with
      | some (n, rest) => .number (Numeral.clamp n) :: tokens fuel rest
      | none => [.other]
    else if c.isAlpha || c == '_' then
      let name := (c :: cs).takeWhile fun d => d.isAlphanum || d == '_'
      .name (String.ofList name) :: tokens fuel ((c :: cs).drop name.length)
    else match operators.find? fun s => s.toList.isPrefixOf (c :: cs) with
      | some s => .operator s :: tokens fuel ((c :: cs).drop s.length)
      | none => [.other]

/-- How loosely an operator binds; none if it does not stand between two operands. -/
def looseness? (operator : String) : Option Nat :=
  [["*", "/", "%"], ["+", "-"], ["<<", ">>"], ["<", "<=", ">", ">="], ["==", "!="], ["&"], ["^"],
   ["|"]].findIdx? (·.contains operator)

/-- The operators that assign, and what they do first. -/
def assigning : List (String × String) :=
  [("=", ""), ("+=", "+"), ("-=", "-"), ("*=", "*"), ("/=", "/"), ("%=", "%"), ("<<=", "<<"),
   (">>=", ">>"), ("&=", "&"), ("^=", "^"), ("|=", "|")]

/-! ## Section 2: Values -/

/-- What an evaluation has come to. -/
structure State where
  /-- The token that is looked at. -/
  token : Token
  rest : List Token
  /-- The values that variables had before. -/
  known : String → Option String
  /-- What was assigned, newest first. -/
  assigned : List (String × Int) := []

/-- An evaluation. -/
abbrev Evaluation := StateT State (Except Fault)

/-- Takes the present token and looks at the next. -/
def advance : Evaluation Token := modifyGet fun s =>
  match s.rest with
  | [] => (s.token, { s with token := .finish })
  | t :: rest => (s.token, { s with token := t, rest })

/-- The number in a variable. -/
def valueOf (name : String) : Evaluation Int := do
  let s ← get
  match s.assigned.lookup name with
  | some n => return n
  | none =>
    let text := (s.known name).getD ""
    match Numeral.ofValue? text with
    | some n => return n
    | none => throw (.illegalNumber text)

/-- The value of a truth value. -/
def truth (b : Bool) : Int := if b then 1 else 0

/-- The result of an operator on two numbers. -/
def apply (operator : String) (a b : Int) : Except Fault Int :=
  let bits (f : UInt64 → UInt64 → UInt64) : Int :=
    (f (Int64.ofInt a).toUInt64 (Int64.ofInt b).toUInt64).toInt64.toInt
  let divide (f : Int → Int → Int) : Except Fault Int :=
    if b = 0 then .error .divisionByZero
    else if b = -1 ∧ a = -(Nat.pow 2 63 : Nat) then .error .overflow
    else .ok (f a b)
  match operator with
  | "+" => .ok (wrap (a + b))
  | "-" => .ok (wrap (a - b))
  | "*" => .ok (wrap (a * b))
  | "/" => divide Int.tdiv
  | "%" => divide Int.tmod
  | "<<" => .ok (wrap (a * Nat.pow 2 (b % 64).toNat))
  | ">>" => .ok (wrap (a.fdiv (Nat.pow 2 (b % 64).toNat)))
  | "<" => .ok (truth (a < b))
  | "<=" => .ok (truth (a ≤ b))
  | ">" => .ok (truth (b < a))
  | ">=" => .ok (truth (b ≤ a))
  | "==" => .ok (truth (a = b))
  | "!=" => .ok (truth (a ≠ b))
  | "&" => .ok (bits (· &&& ·))
  | "|" => .ok (bits (· ||| ·))
  | "^" => .ok (bits (· ^^^ ·))
  | _ => .ok b

mutual

/-- Evaluates an assignment or a choice. -/
def assignment : Nat → Bool → Evaluation Int
  | 0, _ => throw .primaryExpected
  | fuel + 1, matters => do
    match ← get with
    | { token := .name s, rest := .operator o :: _, .. } =>
      match assigning.lookup o with
      | some first =>
        let _ ← advance
        let _ ← advance
        let k ← assignment fuel matters
        if !matters then return k
        let n ← if first = "" then pure k else do
          match apply first (← valueOf s) k with
          | .ok n => pure n
          | .error f => throw f
        modify fun st => { st with assigned := (s, n) :: st.assigned }
        return n
      | none => choice fuel matters
    | _ => choice fuel matters

/-- Evaluates a choice. -/
def choice : Nat → Bool → Evaluation Int
  | 0, _ => throw .primaryExpected
  | fuel + 1, matters => do
    let c ← disjunction fuel matters
    if (← get).token ≠ .operator "?" then return c
    let _ ← advance
    let a ← assignment fuel (matters && c != 0)
    if (← get).token ≠ .operator ":" then throw .colonExpected
    let _ ← advance
    let b ← choice fuel (matters && c == 0)
    return if c ≠ 0 then a else b

/-- Evaluates a disjunction. -/
def disjunction : Nat → Bool → Evaluation Int
  | 0, _ => throw .primaryExpected
  | fuel + 1, matters => do
    let a ← conjunction fuel matters
    if (← get).token ≠ .operator "||" then return a
    let _ ← advance
    let b ← disjunction fuel (matters && a == 0)
    return truth (a ≠ 0 ∨ b ≠ 0)

/-- Evaluates a conjunction. -/
def conjunction : Nat → Bool → Evaluation Int
  | 0, _ => throw .primaryExpected
  | fuel + 1, matters => do
    let a ← operand fuel matters
    let a ← match (← get).token with
      | .operator o => if (looseness? o).isSome then operation fuel matters a o 100 else pure a
      | _ => pure a
    if (← get).token ≠ .operator "&&" then return a
    let _ ← advance
    let b ← conjunction fuel (matters && a != 0)
    return truth (a ≠ 0 ∧ b ≠ 0)

/-- Evaluates operators that bind more tightly than some looseness, from the first one
    on, which is looked at. -/
def operation : Nat → Bool → Int → String → Nat → Evaluation Int
  | 0, _, _, _, _ => throw .primaryExpected
  | fuel + 1, matters, a, o, limit => do
    let _ ← advance
    let b ← operand fuel matters
    let own := (looseness? o).getD 0
    let b ← match (← get).token with
      | .operator p =>
        match looseness? p with
        | some n => if n < own then operation fuel matters b p own else pure b
        | none => pure b
      | _ => pure b
    let a ← if !matters then pure b else
      match apply o a b with
      | .ok n => pure n
      | .error f => throw f
    match (← get).token with
    | .operator p =>
      match looseness? p with
      | some n => if n < limit then operation fuel matters a p limit else return a
      | none => return a
    | _ => return a

/-- Evaluates an operand. -/
def operand : Nat → Bool → Evaluation Int
  | 0, _ => throw .primaryExpected
  | fuel + 1, matters => do
    match ← advance with
    | .number n => return wrap n
    | .name s => if matters then valueOf s else return 0
    | .operator "(" =>
      let n ← assignment fuel matters
      if (← get).token ≠ .operator ")" then throw .parenthesisExpected
      let _ ← advance
      return n
    | .operator "+" => operand fuel matters
    | .operator "-" => return wrap (-(← operand fuel matters))
    | .operator "!" => return truth ((← operand fuel matters) = 0)
    | .operator "~" => return -(← operand fuel matters) - 1
    | _ => throw .primaryExpected

end

/-- The value of the text of an expression, and what it assigns, oldest first. -/
def run (known : String → Option String) (cs : List Char) :
    Except Fault (Int × List (String × Int)) := do
  let ts := tokens (cs.length + 1) cs
  let start : State := { token := ts.head?.getD .finish, rest := ts.tail, known }
  let (n, s) ← (assignment (30 * (ts.length + 2)) true).run start
  if s.token = .finish then return (n, s.assigned.reverse) else throw .endExpected

end SimSweep.Shell.Arithmetic
