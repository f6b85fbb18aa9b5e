import SimSweep.Shell.Arithmetic
import SimSweep.Shell.Tree

/-! # Calculations

    Expressions of the rich dialect: numbers in any base, powers, steps up and down,
    rows of expressions, and elements of lists. A name stands for the value of the
    expression in its variable. What is wrong is told with the rest of the text from the
    last token on.
-/

namespace SimSweep.Shell.Calculation

/-- Why an expression has no value. -/
structure Fault where
  expression : List Char
  message : String
  /-- The text from the token on that is to blame. -/
  rest : List Char

/-- The wording of a fault. -/
def Fault.text (f : Fault) : String :=
  String.ofList (f.expression.dropWhile isSpace) ++ ": " ++ f.message ++ " (error token is \"" ++
    String.ofList f.rest ++ "\")"

/-- What an expression is made of. -/
inductive Token where
  | number (n : Int)
  /-- A variable, or the element of a list under a subscript. -/
  | name (s : String) (subscript : Option (List Char))
  | operator (s : String)
  | finish
  deriving DecidableEq

/-- What is known of the variables. -/
structure Knowledge where
  /-- The text of a variable, or of an element. -/
  text : String → Option String → Option String
  /-- Whether the subscripts of a list are names. -/
  isNamed : String → Bool
  /-- Whether variables have to be set. -/
  isStrict : Bool := false

/-- What an evaluation has come to. -/
structure State where
  expression : List Char
  token : Token := .finish
  /-- The text behind the present token. -/
  rest : List Char
  /-- The text from the last token on. -/
  last : List Char := []
  /-- What was assigned, newest first. -/
  assigned : List ((String × Option String) × Int) := []

/-- An evaluation. -/
abbrev Evaluation := StateT State (Except Fault)

/-- Ends an evaluation without a value. -/
def refuse {α : Type} (message : String) : Evaluation α := do
  let s ← get
  throw ⟨s.expression, message, s.last⟩

/-! ## Section 1: Tokens -/

/-- The operators, longer ones first. -/
def operators : List String :=
  ["<<=", ">>=", "**", "<<", ">>", "<=", ">=", "==", "!=", "&&", "||", "+=", "-=", "*=", "/=",
   "%=", "&=", "^=", "|=", "+", "-", "*", "/", "%", "<", ">", "=", "!", "~", "&", "^", "|", "?",
   ":", "(", ")", ","]

/-- The value of a digit in a base. -/
def digitOf (base : Nat) (c : Char) : Nat :=
  if c.isDigit then c.toNat - '0'.toNat
  else if c.isLower then c.toNat - 'a'.toNat + 10
  else if c.isUpper then c.toNat - 'A'.toNat + (if base ≤ 36 then 10 else 36)
  else if c = '@' then 62
  else 63

/-- The number that digits denote in a base. -/
def valueIn (base : Nat) (digits : List Char) : Except String Int :=
  if digits.any fun c => decide (base ≤ digitOf base c) then .error "value too great for base"
  else .ok (Arithmetic.wrap (digits.foldl (fun n c => n * base + digitOf base c) 0 : Nat))

/-- The number of a numeral. -/
def numeral (cs : List Char) : Except String Int :=
  let base := cs.takeWhile (· ≠ '#')
  match cs.drop base.length with
  | _ :: digits =>
    let n := Decimal.valueOf base
    if ¬ base.all Char.isDigit ∨ n < 2 ∨ 64 < n then .error "invalid arithmetic base"
    else if digits.isEmpty then .error "invalid integer constant"
    else valueIn n digits
  | [] =>
    match cs with
    | '0' :: 'x' :: digits | '0' :: 'X' :: digits => valueIn 16 digits
    | '0' :: digits => valueIn 8 digits
    | digits => valueIn 10 digits

/-- What stands between brackets at the start of a text, and behind them; none if it does
    not start with a bracket or the bracket is not closed. -/
def bracketed? (cs : List Char) : Option (List Char × List Char) :=
  match cs with
  | '[' :: rest =>
    match bracketIn 0 rest with
    | .inr r => some r
    | .inl _ => none
  | _ => none

/-- Takes the next token. -/
def advance : Evaluation Unit := do
  let s ← get
  let start := s.rest.dropWhile isSpace
  let put (token : Token) (n : Nat) : Evaluation Unit :=
    set { s with token, rest := start.drop n, last := start }
  match start with
  | [] => set { s with token := .finish, rest := [] }
  | c :: cs =>
    if startsName c then
      let name := start.takeWhile isNameChar
      let after := start.drop name.length
      match bracketed? after with
      | some (subscript, rest) =>
        set { s with token := .name (String.ofList name) (some subscript), rest, last := start }
      | none => put (.name (String.ofList name) none) name.length
    else if c.isDigit then
      let digits := start.takeWhile fun d => isNameChar d || d == '#' || d == '@'
      match numeral digits with
      | .ok n => put (.number n) digits.length
      | .error f =>
        set { s with last := start }
        refuse f
    else
      let isDouble := (c == '+' || c == '-') && cs.head? == some c
      let isBehind : Bool := match s.token with
        | .name _ _ => true
        | _ => false
      let isBefore := ((cs.drop 1).dropWhile isSpace).head?.any startsName
      if isDouble ∧ (isBehind ∨ isBefore) then
        put (.operator (String.ofList [c, c] ++ if isBehind then "behind" else "")) 2
      else match operators.find? fun o => o.toList.isPrefixOf start with
        | some o => put (.operator o) o.length
        | none =>
          set { s with last := start }
          match s.token with
          | .number _ | .name _ _ => refuse "syntax error: invalid arithmetic operator"
          | _ => refuse "syntax error: operand expected"

/-! ## Section 2: Values -/

/-- The result of an operator on two numbers. -/
def apply (operator : String) (a b : Int) : Option Int :=
  if operator = "**" then some (Arithmetic.wrap (go b.toNat))
  else if (operator = "/" ∨ operator = "%") ∧ b = -1 then
    some (if operator = "/" then Arithmetic.wrap (-a) else 0)
  else (Arithmetic.apply operator a b).toOption
where
  /-- A power that wraps around at every step. -/
  go : Nat → Int
    | 0 => 1
    | n + 1 => Arithmetic.wrap (go n * a)

/-- The operators of each level, the loosest ones first. -/
def levels : List (List String) :=
  [["||"], ["&&"], ["|"], ["^"], ["&"], ["==", "!="], ["<", "<=", ">", ">="], ["<<", ">>"],
   ["+", "-"], ["*", "/", "%"]]

/-- Notes that something is assigned. -/
def note (key : String × Option String) (n : Int) : Evaluation Unit :=
  modify fun s => { s with assigned := (key, n) :: s.assigned }

mutual

/-- Evaluates a row of expressions; the value is that of the last one. -/
def row (known : Knowledge) : Nat → Bool → Evaluation Int
  | 0, _ => refuse "expression recursion level exceeded"
  | fuel + 1, matters => do
    let n ← assignment known fuel matters
    if (← get).token = .operator "," then
      advance
      row known fuel matters
    else return n

/-- Evaluates an assignment or a choice. -/
def assignment (known : Knowledge) : Nat → Bool → Evaluation Int
  | 0, _ => refuse "expression recursion level exceeded"
  | fuel + 1, matters => do
    let start ← get
    let operator ← match start.token with
      | .name _ _ => do
        advance
        match (← get).token with
        | .operator o => pure (Arithmetic.assigning.lookup o)
        | _ => pure none
      | _ => pure none
    match start.token, operator with
    | .name s subscript, some first =>
      advance
      let k ← assignment known fuel matters
      if !matters then return k
      let key ← keyOf known fuel s subscript
      let n ← if first = "" then pure k else do
        let old ← valueOf known fuel key
        match apply first old k with
        | some n => pure n
        | none => refuse "division by 0"
      note key n
      return n
    | _, _ =>
      set start
      let n ← choice known fuel matters
      match (← get).token with
      | .operator o =>
        if (Arithmetic.assigning.lookup o).isSome then
          refuse "attempted assignment to non-variable"
        return n
      | _ => return n

/-- Evaluates a choice. -/
def choice (known : Knowledge) : Nat → Bool → Evaluation Int
  | 0, _ => refuse "expression recursion level exceeded"
  | fuel + 1, matters => do
    let c ← level known fuel matters levels
    if (← get).token ≠ .operator "?" then return c
    advance
    if (← get).token = .finish ∨ (← get).token = .operator ":" then refuse "expression expected"
    let a ← row known fuel (matters && c != 0)
    if (← get).token ≠ .operator ":" then refuse "\x60:' expected for conditional expression"
    advance
    if (← get).token = .finish then refuse "expression expected"
    let b ← choice known fuel (matters && c == 0)
    return if c ≠ 0 then a else b

/-- Evaluates operators of some levels. -/
def level (known : Knowledge) : Nat → Bool → List (List String) → Evaluation Int
  | 0, _, _ => refuse "expression recursion level exceeded"
  | fuel + 1, matters, [] => power known fuel matters
  | fuel + 1, matters, operators :: tighter => do
    let a ← level known fuel matters tighter
    further known fuel matters operators tighter a

/-- Evaluates further operators of a level behind a value. -/
def further (known : Knowledge) :
    Nat → Bool → List String → List (List String) → Int → Evaluation Int
  | 0, _, _, _, _ => refuse "expression recursion level exceeded"
  | fuel + 1, matters, operators, tighter, a => do
    match (← get).token with
    | .operator o =>
      if ¬ operators.contains o then return a
      let blamed := (← get).rest.dropWhile isSpace
      advance
      let needed := matters && !(o == "||" && a != 0) && !(o == "&&" && a == 0)
      let b ← level known fuel needed tighter
      let n ←
        if o = "||" then pure (Arithmetic.truth (a ≠ 0 ∨ b ≠ 0))
        else if o = "&&" then pure (Arithmetic.truth (a ≠ 0 ∧ b ≠ 0))
        else if !matters then pure b
        else match apply o a b with
          | some n => pure n
          | none => do
            modify fun s => { s with last := blamed }
            refuse "division by 0"
      further known fuel matters operators tighter n
    | _ => return a

/-- Evaluates a power. -/
def power (known : Knowledge) : Nat → Bool → Evaluation Int
  | 0, _ => refuse "expression recursion level exceeded"
  | fuel + 1, matters => do
    let a ← operand known fuel matters
    if (← get).token ≠ .operator "**" then return a
    advance
    let b ← power known fuel matters
    if b < 0 ∧ matters then refuse "exponent less than 0"
    return if matters then (apply "**" a b).getD 0 else 0

/-- Evaluates an operand. -/
def operand (known : Knowledge) : Nat → Bool → Evaluation Int
  | 0, _ => refuse "expression recursion level exceeded"
  | fuel + 1, matters => do
    match (← get).token with
    | .number n =>
      advance
      return n
    | .name s subscript =>
      advance
      let key ← if matters then keyOf known fuel s subscript else pure (s, none)
      let n ← if matters then valueOf known fuel key else pure 0
      match (← get).token with
      | .operator "++behind" =>
        advance
        if matters then note key (Arithmetic.wrap (n + 1))
      | .operator "--behind" =>
        advance
        if matters then note key (Arithmetic.wrap (n - 1))
      | _ => pure ()
      return n
    | .operator "(" =>
      advance
      let n ← row known fuel matters
      if (← get).token ≠ .operator ")" then refuse "missing \x60)'"
      advance
      return n
    | .operator "++" => step known fuel matters 1
    | .operator "--" => step known fuel matters (-1)
    | .operator "+" =>
      advance
      operand known fuel matters
    | .operator "-" =>
      advance
      return Arithmetic.wrap (-(← operand known fuel matters))
    | .operator "!" =>
      advance
      return Arithmetic.truth ((← operand known fuel matters) = 0)
    | .operator "~" =>
      advance
      return -(← operand known fuel matters) - 1
    | _ => refuse "syntax error: operand expected"

/-- Evaluates a step up or down in front of a variable. -/
def step (known : Knowledge) : Nat → Bool → Int → Evaluation Int
  | 0, _, _ => refuse "expression recursion level exceeded"
  | fuel + 1, matters, by_ => do
    advance
    match (← get).token with
    | .name s subscript =>
      advance
      if !matters then return 0
      let key ← keyOf known fuel s subscript
      let n := Arithmetic.wrap ((← valueOf known fuel key) + by_)
      note key n
      return n
    | _ => refuse "identifier expected after pre-increment or pre-decrement"

/-- The variable or element that is meant by a name with a subscript. -/
def keyOf (known : Knowledge) :
    Nat → String → Option (List Char) → Evaluation (String × Option String)
  | 0, _, _ => refuse "expression recursion level exceeded"
  | _, s, none => return (s, none)
  | fuel + 1, s, some subscript => do
    if known.isNamed s then return (s, some (String.ofList subscript))
    let n ← whole known fuel subscript
    let n := if n < 0 then 0 else n.toNat
    return (s, some (String.ofList (Decimal.digitsOf n)))

/-- The number in a variable. -/
def valueOf (known : Knowledge) : Nat → String × Option String → Evaluation Int
  | 0, _ => refuse "expression recursion level exceeded"
  | fuel + 1, key => do
    match (← get).assigned.lookup key with
    | some n => return n
    | none =>
      match known.text key.1 key.2 with
      | none =>
        if known.isStrict then throw ⟨key.1.toList, "unbound variable", []⟩
        return 0
      | some s => if s.toList.all isSpace then return 0 else whole known fuel s.toList

/-- The value of the text of another expression. -/
def whole (known : Knowledge) : Nat → List Char → Evaluation Int
  | 0, _ => refuse "expression recursion level exceeded"
  | fuel + 1, cs => do
    let before ← get
    set { before with expression := cs, rest := cs, last := [], token := .finish }
    advance
    if (← get).token = .finish then
      set before
      return 0
    let n ← row known fuel true
    if (← get).token ≠ .finish then refuse "syntax error in expression"
    modify fun after => { before with assigned := after.assigned }
    return n

end

/-- The depth of calls that an evaluation may reach. -/
def depthLimit : Nat := 20000

/-- The value of the text of an expression, and what it assigns, oldest first. -/
def run (known : Knowledge) (cs : List Char) :
    Except Fault (Int × List ((String × Option String) × Int)) := do
  let (n, s) ← (whole known depthLimit cs).run { expression := cs, rest := cs }
  return (n, s.assigned.reverse)

end SimSweep.Shell.Calculation
