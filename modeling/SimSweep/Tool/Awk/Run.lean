import SimSweep.Tool.Awk.Memory

/-! # Running programs for records

    The statements of the rules that choose a record are run for it. Expressions may
    change variables, read further lines and run commands.
-/

namespace SimSweep.Tool.Awk

open Kernel Tool

/-! ## Section 1: Replacements and formats -/

/-- A replacement for what was found. An ampersand stands for that, unless there is a
    backslash in front of it. -/
def replacement (found : List Char) : List Char → List Char
  | '\\' :: '&' :: rest => '&' :: replacement found rest
  | '\\' :: '\\' :: rest => '\\' :: replacement found rest
  | '&' :: rest => found ++ replacement found rest
  | c :: rest => c :: replacement found rest
  | [] => []

/-- A text in which what a regular expression fits is replaced, from some place on, and
    how often that was. The number bounds the matches. -/
def replaced (r : Regex) (by_ : List Char) (isGlobal : Bool) (t : Regex.Text) :
    Nat → Nat → Option Nat → List Char × Nat
  | 0, start, _ => (t.between start t.chars.size, 0)
  | fuel + 1, start, lastEnd =>
    match r.find? t start with
    | none => (t.between start t.chars.size, 0)
    | some fit =>
      let isEmpty := fit.last == fit.first
      if isEmpty ∧ lastEnd = some fit.first then
        if t.chars.size ≤ fit.first then (t.between start t.chars.size, 0)
        else
          let (cs, n) := replaced r by_ isGlobal t fuel (fit.first + 1) none
          (t.between start (fit.first + 1) ++ cs, n)
      else
        let put := t.between start fit.first ++ replacement (fit.group t 0) by_
        if ¬ isGlobal then (put ++ t.between fit.last t.chars.size, 1)
        else if isEmpty ∧ t.chars.size ≤ fit.last then (put, 1)
        else
          let next := if isEmpty then fit.last + 1 else fit.last
          let (cs, n) := replaced r by_ isGlobal t fuel next (some fit.last)
          (put ++ t.between fit.last next ++ cs, n + 1)

/-- The text of a value in a place of a format; none if there is no such place. -/
def convert? (layout : Shell.Format.Layout) (conversion : Char) (format : String) (v : Value) :
    Option (List Char) :=
  let cut (cs : List Char) : List Char := match layout.precision with
    | some n => cs.take n
    | none => cs
  match conversion with
  | 's' => some (layout.padded (cut (v.toText format).toList))
  | 'c' =>
    let c := match v with
      | .number x | .numeral _ x => Char.ofNat (((wholeOf? x).getD 0) % 256).toNat
      | v => ((v.toText format).toList.head?).getD '\x00'
    some (layout.padded [c])
  | 'd' | 'i' => some (layout.integer 'd' (wholeNumber v.toNumber))
  | 'o' | 'x' | 'X' | 'u' =>
    let n := wholeNumber v.toNumber
    some (layout.integer conversion (if n < 0 then n + Nat.pow 2 64 else n))
  | 'e' | 'E' | 'f' | 'F' | 'g' | 'G' | 'a' | 'A' => some (formatted layout conversion v.toNumber)
  | _ => none
where
  /-- The whole number of sixty-four bits for a number. -/
  wholeNumber (x : Float) : Int :=
    let least : Int := -Nat.pow 2 63
    match wholeOf? x with
    | some n => max least (min n (Nat.pow 2 64 - 1))
    | none => least

/-- The text of values in a format, and what is wrong if it is cut short. The first number
    bounds the places, the second one is that of the next place. -/
def printed (whole numbers : String) :
    Nat → Nat → List Char → List Value → List Char × Option String
  | 0, _, _, _ => ([], none)
  | _, _, [], _ => ([], none)
  | fuel + 1, n, '%' :: '%' :: rest, vs => behind ['%'] (printed whole numbers fuel n rest vs)
  | fuel + 1, n, '%' :: start, vs =>
    let flags := start.takeWhile fun c => "-+ #0".toList.contains c
    let (start, vs) := match start.drop flags.length, vs with
      | '*' :: more, v :: vs =>
        (flags ++ intText ((wholeOf? v.toNumber).getD 0) ++ more, vs)
      | '*' :: more, [] => (flags ++ more, [])
      | _, vs => (start, vs)
    let (layout, rest) := layoutOf start
    let improper : List Char × Option String :=
      ([], some ("improper conversion(number " ++ digits n ++ ") in printf(\"" ++ whole ++ "\")"))
    match rest, vs with
    | [], _ => ('%' :: start, none)
    | conversion :: _, [] =>
      if (convert? layout conversion numbers .nothing).isSome then
        ([], some ("not enough arguments passed to printf(\"" ++ whole ++ "\")"))
      else improper
    | conversion :: rest, v :: vs =>
      match convert? layout conversion numbers v with
      | some cs => behind cs (printed whole numbers fuel (n + 1) rest vs)
      | none => improper
  | fuel + 1, n, c :: rest, vs => behind [c] (printed whole numbers fuel n rest vs)
where
  /-- What follows some characters. -/
  behind (cs : List Char) (more : List Char × Option String) : List Char × Option String :=
    (cs ++ more.1, more.2)

/-- The text of values in a format, and what is wrong if it is cut short. -/
def formattedText (format : String) (vs : List Value) : Doing (String × Option String) := do
  let (cs, fault) := printed format (← textOf "CONVFMT") (format.length + 1) 1 format.toList vs
  return (String.ofList cs, fault)

/-- A part of a text from some place on. -/
def part (s : String) (start : Float) (length : Option Float) : String :=
  let first := (wholeOf? start).getD 1
  let cs := s.toList
  match length with
  | none => String.ofList (cs.drop (first - 1).toNat)
  | some x =>
    let n := (wholeOf? (x + 0.5)).getD (if x < 0 then 0 else cs.length)
    let n := if first < 0 then n - first else n
    if x < 0 then "" else String.ofList ((cs.drop (first - 1).toNat).take n.toNat)

/-- Sets what was found, and gives its place. -/
def setFound (place length : Int) : Doing Value := do
  setGlobal "RSTART" (.number (Float.ofInt place))
  setGlobal "RLENGTH" (.number (Float.ofInt length))
  return .number (Float.ofInt place)

/-! ## Section 2: Expressions and statements -/

mutual

/-- The value of an expression. -/
def eval : Nat → Expr → Doing Value
  | 0, _ => return .nothing
  | fuel + 1, e => do
    let text (e : Expr) : Doing String := do return (← eval fuel e).toText (← textOf "CONVFMT")
    match e with
    | .number x => return .number x
    | .text s => return .text s
    | .regex r =>
      let t : Regex.Text := { chars := (← get).record.toList.toArray }
      return .ofBool (r.find? t 0).isSome
    | .name "NF" =>
      let _ ← fields
      valueOf "NF"
    | .name n => valueOf n
    | .element a keys =>
      let key ← keyOf fuel keys
      let id ← arrayOf a
      let t ← tableOf id
      match t.entries[key]? with
      | some (_, v) => return v
      | none =>
        setTable id (t.insert key .nothing)
        return .nothing
    | .field e =>
      match wholeOf? (← eval fuel e).toNumber with
      | some n => fieldAt n
      | none => return .nothing
    | .group e => eval fuel e
    | .not e => return .ofBool (!(← eval fuel e).isTrue)
    | .negate e => return .number (-(← eval fuel e).toNumber)
    | .plus e => return .number (← eval fuel e).toNumber
    | .binary op a b =>
      let x ← eval fuel a
      let y ← eval fuel b
      match op with
      | .add | .sub | .mul | .div | .mod | .pow => return .number (op.apply x.toNumber y.toNumber)
      | op => return .ofBool (Value.compares op (← textOf "CONVFMT") x y)
    | .concat a b =>
      let s ← text a
      let t ← text b
      return .text (s ++ t)
    | .and a b =>
      if (← eval fuel a).isTrue then return .ofBool (← eval fuel b).isTrue else return .ofBool false
    | .or a b =>
      if (← eval fuel a).isTrue then return .ofBool true else return .ofBool (← eval fuel b).isTrue
    | .fits isNegated a b =>
      let s ← text a
      let r ← regexFrom fuel b
      let t : Regex.Text := { chars := s.toList.toArray }
      return .ofBool ((r.find? t 0).isSome != isNegated)
    | .isIn keys a =>
      let key ← keyOf fuel keys
      return .ofBool ((← tableOf (← arrayOf a)).entries.contains key)
    | .choose c a b => if (← eval fuel c).isTrue then eval fuel a else eval fuel b
    | .assign target op value =>
      match op with
      | none =>
        let v ← eval fuel value
        assignTo fuel target v
        return v
      | some op =>
        let y ← eval fuel value
        let x ← eval fuel target
        let v : Value := .number (op.apply x.toNumber y.toNumber)
        assignTo fuel target v
        return v
    | .count target isUp isBefore =>
      let x := (← eval fuel target).toNumber
      let y := if isUp then x + 1 else x - 1
      assignTo fuel target (.number y)
      return .number (if isBefore then y else x)
    | .call f args => callFunction fuel f args
    | .builtin name args => builtin fuel name args
    | .getline target source =>
      let (record, status) ← match source with
        | .input => do
          match ← nextRecord? 1000000000 with
          | some s => pure (some s, (1 : Int))
          | none => pure (none, 0)
        | .file e => do lineFrom (← text e) false
        | .command e => do lineFrom (← text e) true
      match record, target with
      | some s, some target => assignTo fuel target (.ofInput s)
      | some s, none =>
        setRecord s
        let isCounted := source matches .command _
        if isCounted then
          setGlobal "NR" (.number ((← valueOf "NR").toNumber + 1))
      | none, _ => pure ()
      return .number (Float.ofInt status)

/-- The next line of a file or a command, and one if there is one, zero at its end, and
    minus one if it cannot be read. -/
def lineFrom (name : String) (isCommand : Bool) : Doing (Option String × Int) := do
  let start? : Doing (Option Inflow) := do
    if isCommand then
      let (number, child) ← startCommand name false
      return some { number, child := some child }
    else if name = "-" ∨ name = "/dev/stdin" then return some { number := 0 }
    else match ← perform (Work.openFile name { reads := true }) with
      | .ok number => return some { number }
      | .error _ => return none
  let inflow ← match (← get).inflows.lookup name with
    | some i => pure (some i)
    | none => start?
  match inflow with
  | none => return (none, -1)
  | some i =>
    let (record, i) ← i.record
    modify fun m => { m with inflows := (name, i) :: m.inflows.filter (·.1 != name) }
    return (record, if record.isSome then 1 else 0)

/-- The regular expression that an expression stands for. -/
def regexFrom : Nat → Expr → Doing Regex
  | 0, _ => return .nothing
  | fuel + 1, e => do
    match e with
    | .regex r => return r
    | e => dynamicRegex ((← eval fuel e).toText (← textOf "CONVFMT"))

/-- The key that some expressions make. -/
def keyOf : Nat → List Expr → Doing String
  | 0, _ => return ""
  | fuel + 1, keys => do
    let texts ← evalAll fuel keys
    let format ← textOf "CONVFMT"
    return (← textOf "SUBSEP").intercalate (texts.map (Value.toText format))

/-- The values of expressions. -/
def evalAll : Nat → List Expr → Doing (List Value)
  | 0, _ => return []
  | _, [] => return []
  | fuel + 1, e :: rest => do
    let v ← eval fuel e
    return v :: (← evalAll fuel rest)

/-- Assigns a value. -/
def assignTo : Nat → Expr → Value → Doing Unit
  | 0, _, _ => pure ()
  | fuel + 1, target, v => do
    match target with
    | .name n => setVariable n v
    | .element a keys =>
      let key ← keyOf fuel keys
      let id ← arrayOf a
      setTable id ((← tableOf id).insert key v)
    | .field e =>
      match wholeOf? (← eval fuel e).toNumber with
      | some n => setField n v
      | none => pure ()
    | _ => pure ()

/-- Calls a function of the program. -/
def callFunction : Nat → String → List Expr → Doing Value
  | 0, _, _ => return .nothing
  | fuel + 1, name, args => do
    match (← setting).program.functions.find? (·.name == name) with
    | none => return .nothing
    | some f =>
      let slots ← args.mapM fun e => do
        match e with
        | .name n =>
          match ← slot? n with
          | some s => return s
          | none => return .array (← arrayOf n)
        | e => return .value (← eval fuel e)
      let locals := (f.parameters.zipIdx).foldl (fun (h : Std.HashMap String Slot) (p, i) =>
        h.insert p ((slots[i]?).getD (.value .nothing))) {}
      let caller := (← get).locals
      modify fun m => { m with locals := some locals }
      perform (Work.change id)
      let result ← tryCatch (do runAll fuel f.body; return Value.nothing) fun
        | .result v => return v
        | leap => throw leap
      modify fun m => { m with locals := caller }
      return result

/-- Calls a function that is there from the start. -/
def builtin : Nat → String → List Expr → Doing Value
  | 0, _, _ => return .nothing
  | fuel + 1, name, args => do
    let value (i : Nat) : Doing Value := match args[i]? with
      | some e => eval fuel e
      | none => return .nothing
    let text (i : Nat) : Doing String := do return (← value i).toText (← textOf "CONVFMT")
    let number (i : Nat) : Doing Float := do return (← value i).toNumber
    let result (x : Float) : Doing Value := return .number x
    let count (n : Nat) : Doing Value := return .number (Float.ofNat n)
    match name with
    | "length" =>
      match args with
      | [] => count (← get).record.length
      | [.name n] =>
        match ← slot? n with
        | some (.array id) => count (← tableOf id).entries.size
        | _ => count (← text 0).length
      | _ => count (← text 0).length
    | "substr" =>
      let s ← text 0
      let start ← number 1
      let length ← match args[2]? with
        | some e => do pure (some (← eval fuel e).toNumber)
        | none => pure none
      return .text (part s start length)
    | "index" =>
      let s := (← text 0).toList
      let wanted := (← text 1).toList
      let found := (List.range (s.length + 1)).find? fun i => wanted.isPrefixOf (s.drop i)
      count ((found.map (· + 1)).getD 0)
    | "split" =>
      let s ← text 0
      let regex ← match args[2]? with
        | some (Expr.regex r) => pure (some r)
        | _ => pure none
      let separator ← match args[2]? with
        | some (Expr.regex _) => pure ""
        | some e => do pure ((← eval fuel e).toText (← textOf "CONVFMT"))
        | none => textOf "FS"
      let parts ← partsOf separator regex s.toList
      match args[1]? with
      | some (Expr.name a) =>
        let t := (parts.zipIdx).foldl (fun (t : Table) (p, i) =>
          t.insert (digits (i + 1)) (.ofInput (String.ofList p))) {}
        setTable (← arrayOf a) t
      | _ => pure ()
      count parts.length
    | "sub" | "gsub" =>
      let r ← match args[0]? with
        | some e => regexFrom fuel e
        | none => pure .nothing
      let by_ ← text 1
      let target := (args[2]?).getD (.field (.number 0))
      let s := (← eval fuel target).toText (← textOf "CONVFMT")
      let t : Regex.Text := { chars := s.toList.toArray }
      let (cs, n) := replaced r by_.toList (name == "gsub") t (s.length + 2) 0 none
      if 0 < n then assignTo fuel target (.text (String.ofList cs))
      count n
    | "match" =>
      let s ← text 0
      let r ← match args[1]? with
        | some e => regexFrom fuel e
        | none => pure .nothing
      let t : Regex.Text := { chars := s.toList.toArray }
      match r.find? t 0 with
      | some fit => setFound (fit.first + 1) (fit.last - fit.first)
      | none => setFound 0 (-1)
    | "sprintf" =>
      let format ← text 0
      match ← formattedText format (← evalAll fuel (args.drop 1)) with
      | (text, none) => return .text text
      | (_, some fault) => fail fault
    | "sin" => result (← number 0).sin
    | "cos" => result (← number 0).cos
    | "atan2" =>
      let y ← number 0
      result (y.atan2 (← number 1))
    | "exp" => result (← number 0).exp
    | "log" => result (← number 0).log
    | "sqrt" => result (← number 0).sqrt
    | "int" =>
      let x ← number 0
      result (match wholeOf? x with
        | some n => Float.ofInt n
        | none => x)
    | "rand" =>
      let m ← get
      let next := remainder (m.seed * 1103515245 + 12345) 2147483648
      set { m with seed := next }
      result (next / 2147483648)
    | "srand" =>
      let m ← get
      let seed ← if args.isEmpty then do
          pure (Float.ofInt ((← perform (Work.look (·.now))) / 1000000))
        else number 0
      set { m with seed }
      result m.seed
    | "tolower" => return .text ((← text 0).map Char.toLower)
    | "toupper" => return .text ((← text 0).map Char.toUpper)
    | "system" =>
      let command ← text 0
      flushAll
      let s ← setting
      let exit ← perform do
        let call ← read
        let child ← Work.fork do
          match ← runProgram s.host call.environment "/bin/sh" ["-c", command] with
          | .ok n => return n
          | .error f => return unrunStatus f
        Work.waitFor child
      count (endNumber exit)
    | "close" =>
      match ← closeNamed (← text 0) with
      | some n => count n
      | none => result (-1)
    | _ =>
      flushAll
      result 0

/-- Runs a statement. -/
def runOne : Nat → Statement → Doing Unit
  | 0, _ => pure ()
  | fuel + 1, s => do
    let send (outlet : Option (Outlet × Expr)) (s : String) : Doing Unit := do
      match outlet with
      | none => putText s
      | some (o, e) => putTo o ((← eval fuel e).toText (← textOf "CONVFMT")) s
    match s with
    | .eval e =>
      let _ ← eval fuel e
    | .print args outlet =>
      let format ← textOf "OFMT"
      let body ← if args.isEmpty then pure (← get).record else do
        let texts := (← evalAll fuel args).map (Value.toText format)
        pure ((← textOf "OFS").intercalate texts)
      send outlet (body ++ (← textOf "ORS"))
    | .printf args outlet =>
      match ← evalAll fuel args with
      | [] => pure ()
      | format :: vs =>
        let (text, fault) ← formattedText (format.toText (← textOf "CONVFMT")) vs
        send outlet text
        match fault with
        | some fault => fail fault
        | none => pure ()
    | .ifElse c a b => if (← eval fuel c).isTrue then runAll fuel a else runAll fuel b
    | .loop c step body => runLoop fuel c step body
    | .loopOnce body c =>
      if ← runBody fuel body then runLoop fuel (some c) [] body
    | .forKeys key a body =>
      let keys := (← tableOf (← arrayOf a)).keys
      runForKeys fuel key keys body
    | .next => throw .next
    | .nextFile => throw .nextFile
    | .exit e =>
      match e with
      | some e =>
        let n := (wholeOf? (← eval fuel e).toNumber).getD 0
        modify fun m => { m with status := (n % 256).toNat }
      | none => pure ()
      throw .exit
    | .result e =>
      match e with
      | some e => throw (.result (← eval fuel e))
      | none => throw (.result .nothing)
    | .break => throw .break
    | .continue => throw .continue
    | .delete a keys =>
      let id ← arrayOf a
      if keys.isEmpty then setTable id {}
      else
        let key ← keyOf fuel keys
        let t ← tableOf id
        setTable id { t with entries := t.entries.erase key }

/-- Runs statements. -/
def runAll : Nat → List Statement → Doing Unit
  | 0, _ => pure ()
  | _, [] => pure ()
  | fuel + 1, s :: rest => do
    runOne fuel s
    runAll fuel rest

/-- Runs the statements of a loop once. The result is whether it goes on. -/
def runBody : Nat → List Statement → Doing Bool
  | 0, _ => return false
  | fuel + 1, body => do
    perform (Work.change id)
    tryCatch (do runAll fuel body; return true) fun
      | .break => return false
      | .continue => return true
      | leap => throw leap

/-- Runs statements as long as a condition holds. -/
def runLoop : Nat → Option Expr → List Statement → List Statement → Doing Unit
  | 0, _, _, _ => pure ()
  | fuel + 1, c, step, body => do
    let goesOn ← match c with
      | some c => do pure (← eval fuel c).isTrue
      | none => pure true
    if goesOn then
      if ← runBody fuel body then
        runAll fuel step
        runLoop fuel c step body

/-- Runs statements for keys of an array. -/
def runForKeys : Nat → String → List String → List Statement → Doing Unit
  | 0, _, _, _ => pure ()
  | _, _, [], _ => pure ()
  | fuel + 1, name, key :: rest, body => do
    setVariable name (.ofInput key)
    if ← runBody fuel body then runForKeys fuel name rest body

end

/-! ## Section 3: Programs -/

/-- The depth of steps that no program reaches. -/
def stepLimit : Nat := 1000000000000000

/-- Runs the statements of a kind of rules. -/
def runKind (isWanted : Pattern → Bool) : Doing Unit := do
  let rules := (← setting).program.rules
  rules.forM fun (pattern, statements) => do
    if isWanted pattern then runAll stepLimit statements

/-- Whether a rule chooses the record. -/
def isChosen (place : Nat) : Pattern → Doing Bool
  | .always => return true
  | .test e => return (← eval stepLimit e).isTrue
  | .range first last => do
    let finish : Doing Unit := do
      if (← eval stepLimit last).isTrue then
        modify fun m => { m with ranges := m.ranges.filter (· ≠ place) }
    if (← get).ranges.contains place then
      finish
      return true
    else if (← eval stepLimit first).isTrue then
      modify fun m => { m with ranges := place :: m.ranges }
      finish
      return true
    else return false
  | _ => return false

/-- Runs the rules for all records. The number bounds the records. -/
def runRecords : Nat → Doing Unit
  | 0 => pure ()
  | fuel + 1 => do
    match ← nextRecord? 1000000000 with
    | none => pure ()
    | some s =>
      setRecord s
      let rules := (← setting).program.rules
      tryCatch
        (rules.zipIdx.forM fun ((pattern, statements), place) => do
          if ← isChosen place pattern then runAll stepLimit statements)
        fun
        | .next => pure ()
        | .nextFile => modify fun m => { m with main := none }
        | leap => throw leap
      runRecords fuel

/-- Runs a program. -/
def runProgram_ : Doing Unit := do
  let rules := (← setting).program.rules
  let isStart : Pattern → Bool := fun
    | .start => true
    | _ => false
  let isEnd : Pattern → Bool := fun
    | .end => true
    | _ => false
  let work : Doing Unit := do
    runKind isStart
    if rules.any fun r => !isStart r.1 then runRecords stepLimit
  let untilExit (x : Doing Unit) : Doing Bool :=
    tryCatch (do x; return true) fun
      | .exit => return false
      | _ => return true
  let isWhole ← untilExit work
  let hasOthers := rules.any fun r => !isStart r.1
  if isWhole ∨ hasOthers then
    let _ ← untilExit (runKind isEnd)
  let m ← get
  m.outflows.forM fun (_, o) => do
    if o.child.isSome then
      let _ ← endOutflow o
  flush
  m.outflows.forM fun (_, o) => do
    if o.child.isNone then
      let _ ← endOutflow o

/-- What is given to a program. -/
structure Start where
  programFiles : List String := []
  separator : Option String := none
  assignments : List String := []
  operands : List String := []

/-- Takes options out of the arguments. -/
def readArguments : Nat → List String → Start → Deed Start
  | 0, _, s => return s
  | _, [], s => return s
  | fuel + 1, a :: rest, s => do
    let lacks {α : Type} (letter : String) : Deed α := do
      abort ("option -" ++ letter ++ " lacks argument") 2
    let value (cs : List Char) (letter : String) (rest : List String) :
        Deed (String × List String) := do
      match cs, rest with
      | [], [] => lacks letter
      | [], v :: rest => return (v, rest)
      | cs, rest => return (String.ofList cs, rest)
    match a.toList with
    | ['-', '-'] => return { s with operands := rest }
    | ['-'] => return { s with operands := a :: rest }
    | '-' :: 'F' :: cs =>
      let (v, rest) ← value cs "F" rest
      readArguments fuel rest { s with separator := some v }
    | '-' :: 'v' :: cs =>
      let (v, rest) ← value cs "v" rest
      readArguments fuel rest { s with assignments := s.assignments ++ [v] }
    | '-' :: 'f' :: cs =>
      let (v, rest) ← value cs "f" rest
      readArguments fuel rest { s with programFiles := s.programFiles ++ [v] }
    | '-' :: 'W' :: cs =>
      let (_, rest) ← value cs "W" rest
      readArguments fuel rest s
    | '-' :: _ => abort ("not an option: " ++ a) 2
    | _ => return { s with operands := a :: rest }

/-- Complains about a program, and ends. -/
def complainAbout (f : Flaw) : Deed Unit := do
  let place := if f.hasWord then "line " ++ digits f.line else digits f.line
  abort (place ++ ": " ++ f.message) 2

/-- Runs a program for the records of files. -/
def tool (host : Host) : Deed Nat := do
  let call ← read
  let s ← readArguments (call.args.length + 1) call.args {}
  let texts ← s.programFiles.mapM fun name => do
    match ← charsOf name with
    | .ok cs => return cs
    | .error f => abort ("cannot open \"" ++ name ++ "\" (" ++ f.message ++ ")") 2
  let (text, operands) ← match texts, s.operands with
    | [], [] => do
      say "Usage: mawk [Options] [Program] [file ...]\n"
      stop 0
    | [], program :: rest => pure (program.toList ++ ['\n'], rest)
    | texts, rest => pure (texts.flatten, rest)
  match readProgram text with
  | .error f =>
    complainAbout f
    return 2
  | .ok program =>
    let assignments ← s.assignments.mapM fun a => do
      match assignArgument? a with
      | some pair => return pair
      | none => abort ("improper assignment: -v " ++ a) 2
    let start : Doing Unit := do
      let texts := [("FS", " "), ("OFS", " "), ("ORS", "\n"), ("RS", "\n"), ("SUBSEP", "\x1c"),
        ("CONVFMT", "%.6g"), ("OFMT", "%.6g"), ("FILENAME", "")]
      texts.forM fun (name, v) => setGlobal name (.text v)
      ["NF", "NR", "FNR", "RSTART"].forM fun name => setGlobal name (.number 0)
      setGlobal "RLENGTH" (.number (-1))
      let args := call.name :: operands
      setGlobal "ARGC" (.number (Float.ofNat args.length))
      setTable (← arrayOf "ARGV") (args.zipIdx.foldl (fun (t : Table) (a, i) =>
        t.insert (digits i) (.ofInput a)) {})
      setTable (← arrayOf "ENVIRON") (call.environment.foldl (fun (t : Table) (name, v) =>
        t.insert name (.ofInput v)) {})
      match s.separator with
      | some v => setGlobal "FS" (.text (String.ofList (unescape (v.length + 1) v.toList)))
      | none => pure ()
      assignments.forM fun (name, v) => setVariable name (.ofInput v)
      runProgram_
    let (_, m) ← (start.run.run {}).run { host, program }
    return m.status

end SimSweep.Tool.Awk
