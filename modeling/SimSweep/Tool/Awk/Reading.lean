import SimSweep.Tool.Awk.Token
import SimSweep.Tool.Awk.Tree

/-! # Reading programs for records

    The words of a program are read into rules and functions. Operators bind more or less
    tightly; two expressions side by side are joined as texts, and what is behind a print
    statement ends at the sign that sends it elsewhere.
-/

namespace SimSweep.Tool.Awk

/-! ## Section 1: Readers -/

/-- A place in a program, and what surrounds it. -/
structure Cursor where
  tokens : Array (Token × Nat)
  place : Nat := 0
  isInFunction : Bool := false
  /-- Whether there is a record. -/
  hasRecord : Bool := true

/-- A reader of a part of a program. -/
abbrev Reader (α : Type) := StateT Cursor (Except Flaw) α

/-- Which marks end an expression. -/
structure Limits where
  /-- The sign for greater sends output elsewhere. -/
  sends : Bool := false
  /-- The word for membership belongs to a loop. -/
  leavesIn : Bool := false

namespace Reader

/-- The next word. -/
def peek : Reader (Option Token) := return ((← get).tokens[(← get).place]?).map Prod.fst

/-- Passes over a word. -/
def skip : Reader Unit := modify fun s => { s with place := s.place + 1 }

/-- The line of the next word. -/
def line : Reader Nat := do
  let s ← get
  match s.tokens[s.place]?, s.tokens.back? with
  | some (_, n), _ => return n
  | none, some (.newline, n) => return n + 1
  | none, some (_, n) => return n
  | none, none => return 1

/-- Refuses the program here. -/
def refuse {α : Type} (message : String) : Reader α := do
  throw { line := ← line, message }

/-- How many more there are of one mark than of another one up to here. -/
def balance (opening closing : String) : Reader Int := do
  let s ← get
  let taken := (s.tokens.extract 0 (s.place + 1)).toList
  let count (m : String) : Int := taken.countP fun t => t.1 == .mark m
  return count opening - count closing

/-- Refuses the next word. -/
def unexpected {α : Type} : Reader α := do
  let parens ← balance "(" ")"
  let braces ← balance "\x7b" "\x7d"
  match ← peek with
  | none =>
    if 0 < parens then refuse "missing ) near end of file"
    else if 0 < braces then refuse "missing \x7d near end of file"
    else refuse "syntax error at or near end of file"
  | some t =>
    let ends := t == .newline || t == .mark ";" || t == .mark "\x7d"
    if ends ∧ 0 < parens then refuse ("missing ) near " ++ t.written)
    else if t == .mark "\x7d" ∧ braces < 0 then refuse "extra '\x7d'"
    else if t == .mark ")" ∧ parens < 0 then refuse "extra ')'"
    else refuse ("syntax error at or near " ++ t.written)

/-- Whether the next word is a mark, which is taken then. -/
def takeMark (m : String) : Reader Bool := do
  if (← peek) == some (.mark m) then
    skip
    return true
  else return false

/-- Takes a mark that has to be there. -/
def expect (m : String) : Reader Unit := do
  if ¬ (← takeMark m) then unexpected

/-- Whether the next word is a keyword, which is taken then. -/
def takeKeyword (s : String) : Reader Bool := do
  if (← peek) == some (.keyword s) then
    skip
    return true
  else return false

/-- Passes over ends of lines. -/
def skipLines : Reader Unit := modify fun s =>
  let count := ((s.tokens.extract s.place s.tokens.size).toList.takeWhile fun t =>
    t.1 == .newline).length
  { s with place := s.place + count }

/-- Passes over ends of lines and statements. -/
def skipEnds : Reader Unit := modify fun s =>
  let count := ((s.tokens.extract s.place s.tokens.size).toList.takeWhile fun t =>
    t.1 == .newline || t.1 == .mark ";").length
  { s with place := s.place + count }

end Reader

open Reader

/-! ## Section 2: Regular expressions -/

/-- A regular expression in which escapes are replaced by what they stand for. -/
def plainRegex : Nat → List Char → List Char
  | 0, cs => cs
  | _, [] => []
  | fuel + 1, '\\' :: c :: rest =>
    let isOctal (c : Char) : Bool := '0' ≤ c && c ≤ '7'
    if isOctal c then
      let ds := ((c :: rest).take 3).takeWhile isOctal
      put (Char.ofNat (Nat.ofDigitChars 8 ds 0 % 256)) ++
        plainRegex fuel ((c :: rest).drop ds.length)
    else
      let d := match c with
        | 'a' => '\x07'
        | 'b' => '\x08'
        | 'f' => '\x0c'
        | 'n' => '\n'
        | 'r' => '\r'
        | 't' => '\t'
        | 'v' => '\x0b'
        | c => c
      put d ++ plainRegex fuel rest
  | fuel + 1, c :: rest => c :: plainRegex fuel rest
where
  /-- A character that stands for itself. -/
  put (c : Char) : List Char := if ".[]^$*+?(){}|\\-".toList.contains c then ['\\', c] else [c]

/-- The regular expression that a text denotes, or what is wrong with it. -/
def regexOf (cs : List Char) : Except String Regex :=
  match Regex.ofText true (plainRegex cs.length cs) true true with
  | .ok r => .ok r
  | .error f =>
    let reason := match f with
      | .openGroup => "missing ')'"
      | .closedGroup => "missing '('"
      | .openSet | .emptySet => "bad class -- [], [^] or ["
      | .badRepeat => "missing operand"
      | f => f.message
    .error ("regular expression compile failed (" ++ reason ++ ")\n" ++ String.ofList cs)

/-! ## Section 3: Expressions -/

/-- Whether something can be assigned to an expression. -/
def Expr.isTarget : Expr → Bool
  | .name _ | .element _ _ | .field _ => true
  | _ => false

/-- The operation of a mark that assigns, if it is one. -/
def assignment? : Token → Option (Option Operation)
  | .mark "=" => some none
  | .mark "+=" => some (some .add)
  | .mark "-=" => some (some .sub)
  | .mark "*=" => some (some .mul)
  | .mark "/=" => some (some .div)
  | .mark "%=" => some (some .mod)
  | .mark "^=" => some (some .pow)
  | _ => none

/-- The comparison of a mark, if it is one. -/
def comparison? (l : Limits) : Token → Option Operation
  | .mark "<" => some .less
  | .mark "<=" => some .atMost
  | .mark "==" => some .equal
  | .mark "!=" => some .unequal
  | .mark ">" => if l.sends then none else some .greater
  | .mark ">=" => some .atLeast
  | _ => none

/-- Whether a word can start what is joined to a text in front of it. -/
def startsValue : Token → Bool
  | .number _ _ | .text _ | .regex _ | .name _ | .function _ | .builtin _ => true
  | .mark s => ["$", "!", "(", "-", "+", "++", "--"].contains s
  | _ => false

/-- The least and the greatest number of arguments of a function that is there from the
    start. -/
def argumentBounds (name : String) : Nat × Nat :=
  match name with
  | "length" | "srand" | "fflush" => (0, 1)
  | "substr" | "split" | "sub" | "gsub" => (2, 3)
  | "index" | "match" | "atan2" => (2, 2)
  | "sprintf" => (1, 1000)
  | "rand" => (0, 0)
  | _ => (1, 1)

mutual

/-- Reads an expression. -/
def readExpr : Nat → Limits → Reader Expr
  | 0, _ => unexpected
  | fuel + 1, l => do
    let a ← readChoice fuel l
    match (← peek).bind assignment? with
    | some op =>
      if a.isTarget then
        skip
        skipLines
        return .assign a op (← readExpr fuel l)
      else return a
    | none => return a

/-- Reads an expression with a condition. -/
def readChoice : Nat → Limits → Reader Expr
  | 0, _ => unexpected
  | fuel + 1, l => do
    let c ← readOr fuel l
    if ← takeMark "?" then
      skipLines
      let a ← readExpr fuel l
      skipLines
      expect ":"
      skipLines
      return .choose c a (← readExpr fuel l)
    else return c

/-- Reads conditions of which one has to hold. -/
def readOr : Nat → Limits → Reader Expr
  | 0, _ => unexpected
  | fuel + 1, l => do readOrs fuel l (← readAnd fuel l)

/-- Reads further conditions of which one has to hold. -/
def readOrs : Nat → Limits → Expr → Reader Expr
  | 0, _, a => return a
  | fuel + 1, l, a => do
    if ← takeMark "||" then
      skipLines
      readOrs fuel l (.or a (← readAnd fuel l))
    else return a

/-- Reads conditions that all have to hold. -/
def readAnd : Nat → Limits → Reader Expr
  | 0, _ => unexpected
  | fuel + 1, l => do readAnds fuel l (← readMember fuel l)

/-- Reads further conditions that all have to hold. -/
def readAnds : Nat → Limits → Expr → Reader Expr
  | 0, _, a => return a
  | fuel + 1, l, a => do
    if ← takeMark "&&" then
      skipLines
      readAnds fuel l (.and a (← readMember fuel l))
    else return a

/-- Reads a question of membership. -/
def readMember : Nat → Limits → Reader Expr
  | 0, _ => unexpected
  | fuel + 1, l => do readMembers fuel l (← readFit fuel l)

/-- Reads the arrays behind a question of membership. -/
def readMembers : Nat → Limits → Expr → Reader Expr
  | 0, _, a => return a
  | fuel + 1, l, a => do
    if ¬ l.leavesIn ∧ (← peek) == some (.keyword "in") then
      skip
      match ← peek with
      | some (.name s) =>
        skip
        readMembers fuel l (.isIn [a] s)
      | _ => unexpected
    else return a

/-- Reads whether a text fits. -/
def readFit : Nat → Limits → Reader Expr
  | 0, _ => unexpected
  | fuel + 1, l => do readFits fuel l (← readComparison fuel l)

/-- Reads what a text is to fit. -/
def readFits : Nat → Limits → Expr → Reader Expr
  | 0, _, a => return a
  | fuel + 1, l, a => do
    if ← takeMark "~" then readFits fuel l (.fits false a (← readComparison fuel l))
    else if ← takeMark "!~" then readFits fuel l (.fits true a (← readComparison fuel l))
    else return a

/-- Reads a comparison. -/
def readComparison : Nat → Limits → Reader Expr
  | 0, _ => unexpected
  | fuel + 1, l => do
    let a ← readPiped fuel l
    match (← peek).bind (comparison? l) with
    | some op =>
      skip
      return .binary op a (← readPiped fuel l)
    | none => return a

/-- Reads texts side by side, and the word that takes a line from a command. -/
def readPiped : Nat → Limits → Reader Expr
  | 0, _ => unexpected
  | fuel + 1, l => do
    let a ← readSum fuel l
    readPipes fuel (← readJoined fuel l a)

/-- Reads the words that take a line from a command. -/
def readPipes : Nat → Expr → Reader Expr
  | 0, a => return a
  | fuel + 1, a => do
    let s ← get
    if (← peek) == some (.mark "|") ∧
        (s.tokens[s.place + 1]?).map Prod.fst == some (.keyword "getline") then
      skip
      skip
      readPipes fuel (.getline (← readTarget? fuel) (.command a))
    else return a

/-- Reads what is joined to a text. -/
def readJoined : Nat → Limits → Expr → Reader Expr
  | 0, _, a => return a
  | fuel + 1, l, a => do
    if (← peek).any startsValue then readJoined fuel l (.concat a (← readSum fuel l))
    else return a

/-- Reads a sum. -/
def readSum : Nat → Limits → Reader Expr
  | 0, _ => unexpected
  | fuel + 1, l => do readTerms fuel l (← readProduct fuel l)

/-- Reads further terms. -/
def readTerms : Nat → Limits → Expr → Reader Expr
  | 0, _, a => return a
  | fuel + 1, l, a => do
    if ← takeMark "+" then readTerms fuel l (.binary .add a (← readProduct fuel l))
    else if ← takeMark "-" then readTerms fuel l (.binary .sub a (← readProduct fuel l))
    else return a

/-- Reads a product. -/
def readProduct : Nat → Limits → Reader Expr
  | 0, _ => unexpected
  | fuel + 1, l => do readFactors fuel l (← readSigned fuel l)

/-- Reads further factors. -/
def readFactors : Nat → Limits → Expr → Reader Expr
  | 0, _, a => return a
  | fuel + 1, l, a => do
    if ← takeMark "*" then readFactors fuel l (.binary .mul a (← readSigned fuel l))
    else if ← takeMark "/" then readFactors fuel l (.binary .div a (← readSigned fuel l))
    else if ← takeMark "%" then readFactors fuel l (.binary .mod a (← readSigned fuel l))
    else return a

/-- Reads an operand with signs in front. -/
def readSigned : Nat → Limits → Reader Expr
  | 0, _ => unexpected
  | fuel + 1, l => do
    if ← takeMark "!" then return .not (← readSigned fuel l)
    else if ← takeMark "-" then return .negate (← readSigned fuel l)
    else if ← takeMark "+" then return .plus (← readSigned fuel l)
    else
      let a ← readCounted fuel
      if ← takeMark "^" then return .binary .pow a (← readSigned fuel l)
      else return a

/-- Reads an operand that may be counted up or down. -/
def readCounted : Nat → Reader Expr
  | 0 => unexpected
  | fuel + 1 => do
    let a ← readPrimary fuel
    if a.isTarget then
      if ← takeMark "++" then return .count a true false
      else if ← takeMark "--" then return .count a false false
      else return a
    else return a

/-- Reads what a line is put into, if that is said. -/
def readTarget? : Nat → Reader (Option Expr)
  | 0 => return none
  | fuel + 1 => do
    match ← peek with
    | some (.name _) | some (.mark "$") => return some (← readPrimary fuel)
    | _ => return none

/-- Reads expressions with commas between them up to a closing mark. -/
def readList : Nat → String → Reader (List Expr)
  | 0, _ => unexpected
  | fuel + 1, closing => do
    skipLines
    let e ← readExpr fuel {}
    skipLines
    if ← takeMark "," then return e :: (← readList fuel closing)
    else
      expect closing
      return [e]

/-- Reads an operand. -/
def readPrimary : Nat → Reader Expr
  | 0 => unexpected
  | fuel + 1 => do
    match ← peek with
    | some (.number x _) =>
      skip
      return .number x
    | some (.text s) =>
      skip
      return .text s
    | some (.regex cs) =>
      match regexOf cs with
      | .ok r =>
        skip
        return .regex r
      | .error message => refuse message
    | some (.name s) =>
      skip
      if ← takeMark "[" then return .element s (← readList fuel "]") else return .name s
    | some (.function s) =>
      skip
      expect "("
      if ← takeMark ")" then return .call s []
      else return .call s (← readList fuel ")")
    | some (.builtin s) =>
      skip
      if ← takeMark "(" then
        let args ← if ← takeMark ")" then pure [] else readList fuel ")"
        let (least, most) := argumentBounds s
        if args.length < least ∨ most < args.length then
          modify fun c => { c with place := c.place - 1 }
          refuse ("wrong number of arguments in call to " ++ s)
        return .builtin s args
      else if s = "length" then return .builtin s []
      else unexpected
    | some (.mark "$") =>
      skip
      if ← takeMark "++" then
        let a ← readPrimary fuel
        return .field (.count a true true)
      else if ← takeMark "--" then
        let a ← readPrimary fuel
        return .field (.count a false true)
      else if ← takeMark "-" then return .field (.negate (← readPrimary fuel))
      else return .field (← readPrimary fuel)
    | some (.mark "++") =>
      skip
      let a ← readPrimary fuel
      if a.isTarget then return .count a true true else unexpected
    | some (.mark "--") =>
      skip
      let a ← readPrimary fuel
      if a.isTarget then return .count a false true else unexpected
    | some (.mark "-") =>
      skip
      return .negate (← readPrimary fuel)
    | some (.mark "!") =>
      skip
      return .not (← readPrimary fuel)
    | some (.mark "(") =>
      skip
      match ← readList fuel ")" with
      | [e] => return .group e
      | keys =>
        if ← takeKeyword "in" then
          match ← peek with
          | some (.name s) =>
            skip
            return .isIn keys s
          | _ => unexpected
        else unexpected
    | some (.keyword "getline") =>
      skip
      let target ← readTarget? fuel
      if ← takeMark "<" then return .getline target (.file (← readPrimary fuel))
      else return .getline target .input
    | _ => unexpected

end

/-! ## Section 4: Statements -/

/-- Reads expressions with commas between them. -/
def readExprs : Nat → Limits → Reader (List Expr)
  | 0, _ => unexpected
  | fuel + 1, l => do
    let e ← readExpr fuel l
    if ← takeMark "," then
      skipLines
      return e :: (← readExprs fuel l)
    else return [e]

/-- Whether a statement may end here. -/
def isAtEnd : Reader Bool := do
  match ← peek with
  | none | some .newline | some (.mark ";") | some (.mark "\x7d") => return true
  | _ => return false

/-- Takes the end of a statement. -/
def readEnd : Reader Unit := do
  match ← peek with
  | some .newline | some (.mark ";") => skip
  | some (.mark "\x7d") => pure ()
  | _ => unexpected

/-- Reads what is printed, and where. -/
def readPrinted (fuel : Nat) : Reader (List Expr × Option (Outlet × Expr)) := do
  let start ← get
  let isOutlet (t : Option Token) : Bool :=
    t == some (.mark ">") || t == some (.mark ">>") || t == some (.mark "|")
  let plain : Reader (List Expr) := do
    if (← isAtEnd) ∨ isOutlet (← peek) then return []
    else readExprs fuel { sends := true }
  let grouped? : Option (List Expr × Cursor) :=
    match (do expect "("; readList fuel ")" : Reader (List Expr)).run start with
    | .error _ => none
    | .ok (es, after) =>
      match (do return (← isAtEnd) || isOutlet (← peek) : Reader Bool).run after with
      | .ok (true, _) => some (es, after)
      | _ => none
  let args ← match grouped? with
    | some (es, after) =>
      set after
      pure es
    | none => plain
  let sends (o : Outlet) : Reader (List Expr × Option (Outlet × Expr)) := do
    skip
    let e ← readSum fuel { sends := true }
    return (args, some (o, ← readJoined fuel { sends := true } e))
  match ← peek with
  | some (.mark ">") => sends .file
  | some (.mark ">>") => sends .fileEnd
  | some (.mark "|") => sends .command
  | _ => return (args, none)

mutual

/-- Reads a statement without its end, if it is one that needs an end. -/
def readSimple : Nat → Reader Statement
  | 0 => unexpected
  | fuel + 1 => do
    let optional : Reader (Option Expr) := do
      if ← isAtEnd then return none else return some (← readExpr fuel {})
    match ← peek with
    | some (.keyword "print") =>
      skip
      let (args, outlet) ← readPrinted fuel
      return .print args outlet
    | some (.keyword "printf") =>
      skip
      let (args, outlet) ← readPrinted fuel
      if args.isEmpty then refuse "no arguments in call to printf"
      return .printf args outlet
    | some (.keyword "next") =>
      if ¬ (← get).hasRecord then refuse "improper use of next"
      skip
      return .next
    | some (.keyword "nextfile") =>
      skip
      return .nextFile
    | some (.keyword "exit") =>
      skip
      return .exit (← optional)
    | some (.keyword "return") =>
      if ¬ (← get).isInFunction then refuse "return outside function body"
      skip
      return .result (← optional)
    | some (.keyword "break") =>
      skip
      return .break
    | some (.keyword "continue") =>
      skip
      return .continue
    | some (.keyword "delete") =>
      skip
      let isGrouped ← takeMark "("
      match ← peek with
      | some (.name s) =>
        skip
        let keys ← if ← takeMark "[" then readList fuel "]" else pure []
        if isGrouped then expect ")"
        return .delete s keys
      | _ => unexpected
    | _ => return .eval (← readExpr fuel {})

/-- Reads a statement with its end. -/
def readStatement : Nat → Reader (List Statement)
  | 0 => unexpected
  | fuel + 1 => do
    let body : Reader (List Statement) := do
      skipLines
      if ← takeMark ";" then return [] else readStatement fuel
    match ← peek with
    | some (.mark "\x7b") =>
      skip
      readBlock fuel
    | some (.mark ";") =>
      skip
      return []
    | some (.keyword "if") =>
      skip
      expect "("
      let c ← readExpr fuel {}
      expect ")"
      let a ← body
      let here ← get
      skipEnds
      if ← takeKeyword "else" then return [.ifElse c a (← body)]
      else
        set here
        return [.ifElse c a []]
    | some (.keyword "while") =>
      skip
      expect "("
      let c ← readExpr fuel {}
      expect ")"
      return [.loop (some c) [] (← body)]
    | some (.keyword "do") =>
      skip
      let statements ← body
      skipEnds
      if ¬ (← takeKeyword "while") then unexpected
      expect "("
      let c ← readExpr fuel {}
      expect ")"
      readEnd
      return [.loopOnce statements c]
    | some (.keyword "for") =>
      skip
      expect "("
      let s ← get
      match s.tokens[s.place]?, s.tokens[s.place + 1]?, s.tokens[s.place + 2]?,
          s.tokens[s.place + 3]? with
      | some (.name k, _), some (.keyword "in", _), some (.name a, _), some (.mark ")", _) =>
        set { s with place := s.place + 4 }
        return [.forKeys k a (← body)]
      | _, _, _, _ =>
        let first ← if ← takeMark ";" then pure [] else do
          let a ← readSimple fuel
          expect ";"
          pure [a]
        skipLines
        let c ← if ← takeMark ";" then pure none else do
          let c ← readExpr fuel {}
          expect ";"
          pure (some c)
        skipLines
        let step ← if ← takeMark ")" then pure [] else do
          let a ← readSimple fuel
          expect ")"
          pure [a]
        return first ++ [.loop c step (← body)]
    | _ =>
      let a ← readSimple fuel
      readEnd
      return [a]

/-- Reads statements up to the closing brace. -/
def readBlock : Nat → Reader (List Statement)
  | 0 => unexpected
  | fuel + 1 => do
    skipEnds
    if ← takeMark "\x7d" then return []
    else
      let statements ← readStatement fuel
      return statements ++ (← readBlock fuel)

end

/-! ## Section 5: Programs -/

/-- Reads the names of parameters up to the closing parenthesis. -/
def readParameters : Nat → Reader (List String)
  | 0 => unexpected
  | fuel + 1 => do
    skipLines
    match ← peek with
    | some (.mark ")") =>
      skip
      return []
    | some (.name s) =>
      skip
      skipLines
      if ← takeMark "," then return s :: (← readParameters fuel)
      else
        expect ")"
        return [s]
    | _ => unexpected

/-- Reads rules and functions. -/
def readItems : Nat → Program → Reader Program
  | 0, p => return p
  | fuel + 1, p => do
    skipEnds
    let braced : Reader (List Statement) := do
      expect "\x7b"
      readBlock fuel
    let named (pattern : Pattern) : Reader Program := do
      skip
      modify fun s => { s with hasRecord := false }
      let statements ← braced
      modify fun s => { s with hasRecord := true }
      readItems fuel { p with rules := p.rules ++ [(pattern, statements)] }
    match ← peek with
    | none => return p
    | some (.keyword "BEGIN") => named .start
    | some (.keyword "END") => named .end
    | some (.keyword "function") | some (.keyword "func") =>
      skip
      match ← peek with
      | some (.function name) | some (.name name) =>
        skip
        expect "("
        let parameters ← readParameters fuel
        skipLines
        modify fun s => { s with isInFunction := true }
        let body ← braced
        modify fun s => { s with isInFunction := false }
        readItems fuel { p with functions := p.functions ++ [{ name, parameters, body }] }
      | _ => unexpected
    | some (.mark "\x7b") =>
      let statements ← braced
      readItems fuel { p with rules := p.rules ++ [(.always, statements)] }
    | some _ =>
      let first ← readExpr fuel {}
      let pattern ← if ← takeMark "," then do
          skipLines
          pure (Pattern.range first (← readExpr fuel {}))
        else pure (.test first)
      let statements ← match ← peek with
        | some (.mark "\x7b") => braced
        | none | some .newline | some (.mark ";") => pure [.print [] none]
        | _ => unexpected
      readItems fuel { p with rules := p.rules ++ [(pattern, statements)] }

/-- The program of a text. -/
def readProgram (cs : List Char) : Except Flaw Program := do
  let tokens ← tokensOf (cs.length + 1) 1 none cs
  let called := tokens.filterMap fun (t, _) => match t with
    | .function s => some s
    | _ => none
  let (p, _) ← (readItems Regex.stepLimit {}).run { tokens := tokens.toArray }
  match called.find? fun s => !p.functions.any (·.name == s) with
  | some s =>
    throw { line := cs.count '\n' + 1, message := "function " ++ s ++ " never defined" }
  | none => return p

end SimSweep.Tool.Awk
