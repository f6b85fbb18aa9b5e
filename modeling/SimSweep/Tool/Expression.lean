import SimSweep.Shell.Numeral
import SimSweep.Text.Integer
import SimSweep.Tool.Options
import SimSweep.Tool.Regex

/-! # Expressions in arguments

    Every operand and operator of an expression is an argument. Values are texts, which
    are numbers if they look like ones.
-/

namespace SimSweep.Tool.Expression

open Kernel

/-- A value. -/
inductive Value where
  | number (i : Int)
  | text (s : String)

namespace Value

/-- The text of a value. -/
def shown : Value → String
  | .number i => String.ofList (intText i)
  | .text s => s

/-- The number that a value is. -/
def number? : Value → Option Int
  | .number i => some i
  | .text s =>
    let (negative, ds) := match s.toList with
      | '-' :: ds => (true, ds)
      | ds => (false, ds)
    if ¬ ds.isEmpty ∧ ds.all Char.isDigit then
      some (if negative then -(Decimal.valueOf ds : Int) else Decimal.valueOf ds)
    else none

/-- Whether a value counts as none: it is empty or zero. -/
def isNothing : Value → Bool
  | .number i => i == 0
  | .text s =>
    let ds := match s.toList with
      | '-' :: ds => ds
      | ds => ds
    s.isEmpty || (!ds.isEmpty && ds.all (· == '0'))

end Value

/-- An expression that is being read: the arguments that are left, the one before them,
    and whether values are needed. -/
structure Reading where
  rest : List String
  last : String := ""

/-- A reader of a part of an expression. -/
abbrev Reader (α : Type) := StateT Reading Deed α

/-- Ends the program because an expression is not written rightly. -/
def syntaxFault {α : Type} (message : String) : Reader α :=
  liftM (m := Deed) (abort ("syntax error: " ++ message) 2)

/-- Takes the next argument if it is among some. -/
def takeOne (wanted : List String) : Reader (Option String) := do
  let s ← get
  match s.rest with
  | a :: rest =>
    if wanted.contains a then
      set { s with rest, last := a }
      return some a
    else return none
  | [] => return none

/-- Takes the next argument, which has to be there. -/
def takeAny : Reader String := do
  let s ← get
  match s.rest with
  | a :: rest =>
    set { s with rest, last := a }
    return a
  | [] => syntaxFault ("missing argument after " ++ quote s.last)

/-- What a regular expression fits at the start of a text: what its first group fits, or
    how much. -/
def fitted (s pattern : String) : Reader Value := do
  match Regex.ofText false pattern.toList with
  | .error f => liftM (m := Deed) (abort f.message 2)
  | .ok r =>
    let hasGroup := (pattern.splitOn "\\(").length > 1
    let t : Regex.Text := { chars := s.toList.toArray }
    match r.fitAt? t 0 with
    | some fit =>
      if hasGroup then return .text (String.ofList (fit.group t 1))
      else return .number (fit.last - fit.first : Nat)
    | none => return if hasGroup then .text "" else .number 0

/-- The numbers that two values have to be. -/
def numbersOf (a b : Value) : Reader (Int × Int) := do
  match a.number?, b.number? with
  | some i, some j => return (i, j)
  | _, _ => liftM (m := Deed) (abort "non-integer argument" 2)

/-- Compares two values: as numbers if they are ones. -/
def compared (operator : String) (a b : Value) : Bool :=
  let order := match a.number?, b.number? with
    | some i, some j => compare i j
    | _, _ => compare a.shown b.shown
  match operator with
  | "<" => order.isLT
  | "<=" => order.isLE
  | "=" | "==" => order.isEq
  | "!=" => !order.isEq
  | ">=" => order.isGE
  | _ => order.isGT

mutual

/-- Reads alternatives: the first value that counts as something. -/
def readAny : Nat → Bool → Reader Value
  | 0, _ => syntaxFault "too deep"
  | fuel + 1, needed => do restOfAny fuel needed (← readAll fuel needed)

/-- Reads the rest of alternatives. -/
def restOfAny : Nat → Bool → Value → Reader Value
  | 0, _, v => return v
  | fuel + 1, needed, v => do
    match ← takeOne ["|"] with
    | none => return v
    | some _ =>
      let w ← readAll fuel (needed && v.isNothing)
      restOfAny fuel needed
        (if v.isNothing then (if w.isNothing then .number 0 else w) else v)

/-- Reads values that all have to count as something. -/
def readAll : Nat → Bool → Reader Value
  | 0, _ => syntaxFault "too deep"
  | fuel + 1, needed => do restOfAll fuel needed (← readComparison fuel needed)

/-- Reads the rest of values that all have to count as something. -/
def restOfAll : Nat → Bool → Value → Reader Value
  | 0, _, v => return v
  | fuel + 1, needed, v => do
    match ← takeOne ["&"] with
    | none => return v
    | some _ =>
      let w ← readComparison fuel (needed && !v.isNothing)
      restOfAll fuel needed (if v.isNothing ∨ w.isNothing then .number 0 else v)

/-- Reads comparisons. -/
def readComparison : Nat → Bool → Reader Value
  | 0, _ => syntaxFault "too deep"
  | fuel + 1, needed => do restOfComparison fuel needed (← readSum fuel needed)

/-- Reads the rest of comparisons. -/
def restOfComparison : Nat → Bool → Value → Reader Value
  | 0, _, v => return v
  | fuel + 1, needed, v => do
    match ← takeOne ["<", "<=", "=", "==", "!=", ">=", ">"] with
    | none => return v
    | some operator =>
      let w ← readSum fuel needed
      restOfComparison fuel needed (.number (if compared operator v w then 1 else 0))

/-- Reads sums and differences. -/
def readSum : Nat → Bool → Reader Value
  | 0, _ => syntaxFault "too deep"
  | fuel + 1, needed => do restOfSum fuel needed (← readProduct fuel needed)

/-- Reads the rest of sums and differences. -/
def restOfSum : Nat → Bool → Value → Reader Value
  | 0, _, v => return v
  | fuel + 1, needed, v => do
    match ← takeOne ["+", "-"] with
    | none => return v
    | some operator =>
      let w ← readProduct fuel needed
      if needed then
        let (i, j) ← numbersOf v w
        restOfSum fuel needed (.number (if operator = "+" then i + j else i - j))
      else restOfSum fuel needed v

/-- Reads products and quotients. -/
def readProduct : Nat → Bool → Reader Value
  | 0, _ => syntaxFault "too deep"
  | fuel + 1, needed => do restOfProduct fuel needed (← readMatch fuel needed)

/-- Reads the rest of products and quotients. -/
def restOfProduct : Nat → Bool → Value → Reader Value
  | 0, _, v => return v
  | fuel + 1, needed, v => do
    match ← takeOne ["*", "/", "%"] with
    | none => return v
    | some operator =>
      let w ← readMatch fuel needed
      if needed then
        let (i, j) ← numbersOf v w
        if operator ≠ "*" ∧ j = 0 then liftM (m := Deed) (abort "division by zero" 2)
        restOfProduct fuel needed (.number
          (if operator = "*" then i * j else if operator = "/" then Int.tdiv i j
          else Int.tmod i j))
      else restOfProduct fuel needed v

/-- Reads searches for regular expressions. -/
def readMatch : Nat → Bool → Reader Value
  | 0, _ => syntaxFault "too deep"
  | fuel + 1, needed => do restOfMatch fuel needed (← readFunction fuel needed)

/-- Reads the rest of searches for regular expressions. -/
def restOfMatch : Nat → Bool → Value → Reader Value
  | 0, _, v => return v
  | fuel + 1, needed, v => do
    match ← takeOne [":"] with
    | none => return v
    | some _ =>
      let w ← readFunction fuel needed
      restOfMatch fuel needed (← if needed then fitted v.shown w.shown else pure v)

/-- Reads a function of texts. -/
def readFunction : Nat → Bool → Reader Value
  | 0, _ => syntaxFault "too deep"
  | fuel + 1, needed => do
    match ← takeOne ["+", "length", "match", "index", "substr"] with
    | some "+" => return .text (← takeAny)
    | some "length" => return .number (← readFunction fuel needed).shown.length
    | some "match" =>
      let s ← readFunction fuel needed
      let pattern ← readFunction fuel needed
      if needed then fitted s.shown pattern.shown else return s
    | some "index" =>
      let s ← readFunction fuel needed
      let set_ := (← readFunction fuel needed).shown.toList
      let cs := s.shown.toList
      match cs.findIdx? set_.contains with
      | some n => return .number (n + 1 : Nat)
      | none => return .number 0
    | some _ =>
      let s ← readFunction fuel needed
      let first ← readFunction fuel needed
      let count ← readFunction fuel needed
      match first.number?, count.number? with
      | some i, some n =>
        if i ≤ 0 ∨ n ≤ 0 then return .text ""
        else return .text (String.ofList ((s.shown.toList.drop (i.toNat - 1)).take n.toNat))
      | _, _ => return .text ""
    | none => readOperand fuel needed

/-- Reads an operand. -/
def readOperand : Nat → Bool → Reader Value
  | 0, _ => syntaxFault "too deep"
  | fuel + 1, needed => do
    match ← takeOne ["(", ")"] with
    | some ")" => syntaxFault "unexpected ')'"
    | some _ =>
      let v ← readAny fuel needed
      match ← takeOne [")"] with
      | some _ => return v
      | none =>
        let s ← get
        match s.rest with
        | [] => syntaxFault ("expecting ')' after " ++ quote s.last)
        | a :: _ => syntaxFault ("expecting ')' instead of " ++ quote a)
    | none => return .text (← takeAny)

end

/-- Shows the value of the expression in the arguments. -/
def tool : Deed Nat := do
  let args := match (← read).args with
    | "--" :: rest => rest
    | args => args
  if args.isEmpty then misuse "missing operand" 2
  let (v, s) ← (readAny (16 * args.length + 16) true).run { rest := args }
  match s.rest with
  | [] =>
    put (v.shown ++ "\n")
    return if v.isNothing then 1 else 0
  | ")" :: _ => abort "syntax error: unexpected ')'" 2
  | a :: _ => abort ("syntax error: unexpected argument " ++ quote a) 2

end SimSweep.Tool.Expression
