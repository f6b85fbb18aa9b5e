import Std.Data.HashMap
import SimSweep.Tool.Awk.Reading
import SimSweep.Tool.Awk.Value
import SimSweep.Tool.Running

/-! # What a program for records keeps

    The variables and arrays of a program, its record with the fields, and the files and
    commands that it reads and writes.
-/

namespace SimSweep.Tool.Awk

open Kernel Tool

/-! ## Section 1: State -/

/-- An array: values by their keys, each with its place in the order of entry. -/
structure Table where
  entries : Std.HashMap String (Nat × Value) := {}
  next : Nat := 0

/-- What a name stands for. -/
inductive Slot where
  | value (v : Value)
  | array (id : Nat)

/-- Something that is read. -/
structure Inflow where
  number : Nat
  buffer : List Char := []
  isEnded : Bool := false
  child : Option Nat := none

/-- Something that is written, with what was not handed on so far, from its end. -/
structure Outflow where
  number : Nat
  child : Option Nat := none
  pending : List String := []

/-- The state of a program. -/
structure Memory where
  globals : Std.HashMap String Slot := {}
  /-- The names of the function that runs. -/
  locals : Option (Std.HashMap String Slot) := none
  arrays : Std.HashMap Nat Table := {}
  nextArray : Nat := 0
  record : String := ""
  /-- The fields, once they are asked for. -/
  fields : Option (Array Value) := some #[]
  main : Option Inflow := none
  /-- The next argument that is looked at for a file, and whether there was one. -/
  nextArgument : Nat := 1
  hadFile : Bool := false
  inflows : List (String × Inflow) := []
  outflows : List (String × Outflow) := []
  /-- What was printed and is not written so far, from its end. -/
  pending : List String := []
  pendingSize : Nat := 0
  /-- The places of the rules whose ranges have begun. -/
  ranges : List Nat := []
  seed : Float := 0
  status : Nat := 0

/-- What a program runs with. -/
structure Setting where
  host : Host
  program : Program

/-- What cuts statements short. -/
inductive Leap where
  | next
  | nextFile
  | exit
  | break
  | continue
  | result (v : Value)

/-- What a program does. -/
abbrev Doing (α : Type) := ExceptT Leap (StateT Memory (ReaderT Setting Deed)) α

/-- Does a deed. -/
def perform {α : Type} (x : Deed α) : Doing α :=
  ExceptT.mk fun m _ => do return (.ok (← x), m)

/-- What the program runs with. -/
def setting : Doing Setting := ExceptT.mk fun m s => return (.ok s, m)

/-! ## Section 2: Names and arrays -/

/-- What a name stands for, if that is known. -/
def slot? (name : String) : Doing (Option Slot) := do
  let m ← get
  match m.locals with
  | some here => if here.contains name then return here[name]? else return m.globals[name]?
  | none => return m.globals[name]?

/-- Lets a name stand for something. -/
def setSlot (name : String) (s : Slot) : Doing Unit := do
  modify fun m => match m.locals with
    | some here =>
      if here.contains name then { m with locals := some (here.insert name s) }
      else { m with globals := m.globals.insert name s }
    | none => { m with globals := m.globals.insert name s }

/-- The number of the array of a name, which is made if there is none. -/
def arrayOf (name : String) : Doing Nat := do
  match ← slot? name with
  | some (.array id) => return id
  | _ =>
    let id := (← get).nextArray
    modify fun m => { m with nextArray := id + 1 }
    setSlot name (.array id)
    return id

/-- The array of a number. -/
def tableOf (id : Nat) : Doing Table := return ((← get).arrays[id]?).getD {}

/-- Changes an array. -/
def setTable (id : Nat) (t : Table) : Doing Unit :=
  modify fun m => { m with arrays := m.arrays.insert id t }

/-- An array with a value for a key. -/
def Table.insert (t : Table) (key : String) (v : Value) : Table :=
  match t.entries[key]? with
  | some (place, _) => { t with entries := t.entries.insert key (place, v) }
  | none => { entries := t.entries.insert key (t.next, v), next := t.next + 1 }

/-- A number for a key, by which keys are put into an order. -/
def hashOf (key : String) : Nat :=
  key.toList.foldl (fun h c => ((h ^^^ c.toNat) * 16777619) % Nat.pow 2 32) 2166136261

/-- The keys of an array in the order in which they are gone through. -/
def Table.keys (t : Table) : List String :=
  let size := 64
  let entries := t.entries.toList.map fun (key, place, _) => (hashOf key % size, place, key)
  let sorted := entries.mergeSort fun a b =>
    if a.1 = b.1 then decide (b.2.1 ≤ a.2.1) else decide (a.1 ≤ b.1)
  sorted.map fun (_, _, key) => key

/-- The value of a name that is no array. -/
def valueOf (name : String) : Doing Value := do
  match ← slot? name with
  | some (.value v) => return v
  | _ => return .nothing

/-- A global variable as a text. -/
def textOf (name : String) : Doing String := do
  match (← get).globals[name]? with
  | some (.value v) => return v.toText "%.6g"
  | _ => return ""

/-- Sets a global variable. -/
def setGlobal (name : String) (v : Value) : Doing Unit :=
  modify fun m => { m with globals := m.globals.insert name (.value v) }

/-- Writes what was printed. -/
def flush : Doing Unit := do
  let text := String.join (← get).pending.reverse
  modify fun m => { m with pending := [], pendingSize := 0 }
  if ¬ text.isEmpty then
    match ← perform (Work.writeText 1 text) with
    | .ok _ => pure ()
    | .error f => perform do
      complain ("write failure (" ++ f.message ++ ")")
      complain "close failure"
      stop 2

/-- Ends the program with a complaint. -/
def fail {α : Type} (message : String) : Doing α := do
  let name ← textOf "FILENAME"
  let fileNumber ← textOf "FNR"
  let number ← textOf "NR"
  flush
  perform do
    complain ("run time error: " ++ message)
    say ("\tFILENAME=\"" ++ name ++ "\" FNR=" ++ fileNumber ++ " NR=" ++ number ++ "\n")
    stop 2

/-- The regular expression of a text that is made by the program. -/
def dynamicRegex (s : String) : Doing Regex := do
  match regexOf s.toList with
  | .ok r => return r
  | .error message => fail message

/-! ## Section 3: Fields -/

/-- The parts of a text between what a regular expression fits. -/
def splitBy (r : Regex) (cs : List Char) : List (List Char) :=
  let t : Regex.Text := { chars := cs.toArray }
  let rec go : Nat → Nat → Nat → List (List Char)
    | 0, start, _ => [t.between start t.chars.size]
    | fuel + 1, start, i =>
      match r.find? t i with
      | none => [t.between start t.chars.size]
      | some fit =>
        if fit.last = fit.first then
          if t.chars.size ≤ fit.first then [t.between start t.chars.size]
          else go fuel start (fit.first + 1)
        else t.between start fit.first :: go fuel fit.last fit.last
  go (cs.length + 1) 0 0

/-- The parts of a text between blanks. -/
def splitWords (cs : List Char) : List (List Char) :=
  (cs.splitBy fun a b => Value.isSpace a == Value.isSpace b).filter fun word =>
    !(word.head?.any Value.isSpace)

/-- The parts of a text with a separator, or around what a regular expression fits. -/
def partsOf (separator : String) (regex : Option Regex) (cs : List Char) :
    Doing (List (List Char)) := do
  if cs.isEmpty then return []
  match regex with
  | some r => return splitBy r cs
  | none =>
    match separator.toList with
    | [' '] => return splitWords cs
    | [] => return cs.map fun c => [c]
    | [c] => return splitAt c cs
    | _ => return splitBy (← dynamicRegex separator) cs

/-- The fields of the record. -/
def fields : Doing (Array Value) := do
  let m ← get
  match m.fields with
  | some fs => return fs
  | none =>
    let separator ← textOf "FS"
    let isByParagraph := (← textOf "RS").isEmpty
    let cs := m.record.toList
    let parts ←
      if isByParagraph ∧ separator ≠ " " then
        let lines := (splitAt '\n' cs).filter fun l => !l.isEmpty
        pure (← lines.mapM (partsOf separator none)).flatten
      else partsOf separator none cs
    let fs := (parts.map fun p => Value.ofInput (String.ofList p)).toArray
    modify fun m => { m with
      fields := some fs
      globals := m.globals.insert "NF" (.value (.number (Float.ofNat fs.size))) }
    return fs

/-- Sets the record. -/
def setRecord (s : String) : Doing Unit := modify fun m => { m with record := s, fields := none }

/-- Sets the fields, and makes the record of them. -/
def setFields (fs : Array Value) : Doing Unit := do
  let separator ← textOf "OFS"
  let format ← textOf "CONVFMT"
  let texts := fs.toList.map (Value.toText format)
  modify fun m => { m with
    record := separator.intercalate texts
    fields := some fs
    globals := m.globals.insert "NF" (.value (.number (Float.ofNat fs.size))) }

/-- The field of a number. -/
def fieldAt (n : Int) : Doing Value := do
  if n < 0 then fail ("negative field index $" ++ String.ofList (intText n))
  if n = 0 then return .ofInput (← get).record
  else return ((← fields)[n.toNat - 1]?).getD .nothing

/-- Sets the field of a number. -/
def setField (n : Int) (v : Value) : Doing Unit := do
  if n < 0 then fail ("negative field index $" ++ String.ofList (intText n))
  if n = 0 then setRecord (v.toText (← textOf "CONVFMT"))
  else
    let fs ← fields
    let i := n.toNat - 1
    let fs := fs ++ (List.replicate (i + 1 - fs.size) (Value.text "")).toArray
    setFields (fs.set! i v)

/-- Sets a variable. What depends on some of them is changed as well. -/
def setVariable (name : String) (v : Value) : Doing Unit := do
  if name = "NF" then
    let fs ← fields
    let n := ((wholeOf? v.toNumber).getD 0).toNat
    setFields (fs.extract 0 n ++ (List.replicate (n - fs.size) (Value.text "")).toArray)
  else
    if name = "FS" ∨ name = "RS" then let _ ← fields
    setSlot name (.value v)

/-! ## Section 4: Output -/

/-- Hands on what was written to files and commands. -/
def flushAll : Doing Unit := do
  flush
  let flows := (← get).outflows
  flows.forM fun (_, o) => do
    let _ ← perform (Work.writeText o.number (String.join o.pending.reverse))
  modify fun m => { m with outflows := m.outflows.map fun (s, o) => (s, { o with pending := [] }) }

/-- How much is printed before it is written. -/
def bufferLimit : Nat := 4096

/-- Prints a text. -/
def putText (s : String) : Doing Unit := do
  modify fun m => { m with
    pending := s :: m.pending, pendingSize := m.pendingSize + s.utf8ByteSize }
  if bufferLimit < (← get).pendingSize then flush

/-- Starts a command with one end of a pipe as input or output. The result is the other
    end and the child. -/
def startCommand (command : String) (writes : Bool) : Doing (Nat × Nat) := do
  flush
  let s ← setting
  perform do
    let call ← read
    let (source, drain) ← privatePipe
    let (mine, theirs, standard) := if writes then (drain, source, 0) else (source, drain, 1)
    let child ← Work.fork do
      Work.change fun w => ((w.copyDescriptor theirs standard).toOption).getD w
      match ← runProgram s.host call.environment "/bin/sh" ["-c", command] with
      | .ok n => return n
      | .error f => return unrunStatus f
    Work.close theirs
    return (mine, child)

/-- The number for the end of a child. -/
def endNumber : Exit → Nat
  | .status n => n
  | .signal n => 256 + n

/-- Writes a text to a file or a command. -/
def putTo (outlet : Outlet) (name s : String) : Doing Unit := do
  if outlet ≠ .command ∧ (name = "/dev/stdout" ∨ name = "-") then putText s
  else if outlet ≠ .command ∧ name = "/dev/stderr" then
    let _ ← perform (Work.writeText 2 s)
  else
    let start : Doing Outflow := match outlet with
      | .command => do
        let (number, child) ← startCommand name true
        return { number, child := some child }
      | _ => do
        let appends := outlet == .fileEnd
        match ← perform (Work.openFile name
            { writes := true, makes := true, empties := !appends, appends }) with
        | .ok number => return { number }
        | .error f =>
          flush
          perform (abort ("cannot open \"" ++ name ++ "\" for output (" ++ f.message ++ ")") 2)
    let o ← match (← get).outflows.lookup name with
      | some o => pure o
      | none => start
    let o := { o with pending := s :: o.pending }
    modify fun m => { m with outflows := m.outflows.filter (·.1 != name) ++ [(name, o)] }

/-- Ends a file or a command that is written. -/
def endOutflow (o : Outflow) : Doing Nat := do
  let _ ← perform (Work.writeText o.number (String.join o.pending.reverse))
  perform (Work.close o.number)
  match o.child with
  | some child => return endNumber (← perform (Work.waitFor child))
  | none => return 0

/-- Ends what is read or written under some name; none if there is nothing. -/
def closeNamed (name : String) : Doing (Option Nat) := do
  let m ← get
  match m.outflows.lookup name, m.inflows.lookup name with
  | some o, _ =>
    set { m with outflows := m.outflows.filter (·.1 != name) }
    flush
    return some (← endOutflow o)
  | none, some i =>
    set { m with inflows := m.inflows.filter (·.1 != name) }
    perform (Work.close i.number)
    match i.child with
    | some child => return some (endNumber (← perform (Work.waitFor child)))
    | none => return some 0
  | none, none => return none

/-! ## Section 5: Input -/

/-- Reads more of something. -/
def Inflow.more (i : Inflow) : Doing Inflow := do
  match ← perform (Work.read i.number 4096) with
  | .error .interrupted => return i
  | .error f =>
    flush
    perform (abort ("read error (" ++ f.message ++ ")") 2)
  | .ok bytes =>
    if bytes.isEmpty then return { i with isEnded := true }
    else return { i with buffer := i.buffer ++ (Octets.ofBytes bytes).toList }

/-- Reads all of something. The number bounds the pieces. -/
def Inflow.all : Nat → Inflow → Doing Inflow
  | 0, i => return i
  | fuel + 1, i => do if i.isEnded then return i else Inflow.all fuel (← i.more)

/-- Takes the characters up to a separator, if there are any. The number bounds the
    pieces. -/
def Inflow.upTo (separator : Char) : Nat → Inflow → Doing (Option String × Inflow)
  | 0, i => return (none, i)
  | fuel + 1, i => do
    let cs := i.buffer.takeWhile (· ≠ separator)
    match i.buffer.drop cs.length with
    | _ :: rest => return (some (String.ofList cs), { i with buffer := rest })
    | [] =>
      if i.isEnded then
        return (if cs.isEmpty then none else some (String.ofList cs), { i with buffer := [] })
      else Inflow.upTo separator fuel (← i.more)

/-- Takes the next record, if there is one. -/
def Inflow.record (i : Inflow) : Doing (Option String × Inflow) := do
  let separator ← textOf "RS"
  match separator.toList with
  | [c] => i.upTo c pieceLimit
  | [] =>
    let i ← Inflow.all pieceLimit i
    let cs := i.buffer.dropWhile (· = '\n')
    if cs.isEmpty then return (none, { i with buffer := [] })
    else
      let (cs, rest) := paragraph cs
      return (some (String.ofList cs), { i with buffer := rest })
  | _ =>
    let i ← Inflow.all pieceLimit i
    if i.buffer.isEmpty then return (none, i)
    let t : Regex.Text := { chars := i.buffer.toArray }
    let r ← dynamicRegex separator
    let fit? := (r.find? t 0).filter fun fit => fit.first < fit.last
    match fit? with
    | some fit =>
      return (some (String.ofList (t.between 0 fit.first)),
        { i with buffer := i.buffer.drop fit.last })
    | none => return (some (String.ofList i.buffer), { i with buffer := [] })
where
  /-- The characters up to an empty line, and what follows it. -/
  paragraph : List Char → List Char × List Char
    | [] => ([], [])
    | ['\n'] => ([], [])
    | '\n' :: '\n' :: rest => ([], rest.dropWhile (· = '\n'))
    | c :: rest =>
      let (cs, after) := paragraph rest
      (c :: cs, after)

/-- Follows an argument that sets a variable. -/
def assignArgument? (arg : String) : Option (String × String) :=
  let cs := arg.toList
  let name := cs.takeWhile isNameChar
  match cs.drop name.length with
  | '=' :: value =>
    if name.head?.any fun c => c.isAlpha || c == '_' then
      some (String.ofList name, String.ofList (unescape (value.length + 1) value))
    else none
  | _ => none

/-- Opens the next file among the arguments. The result is whether there was one. The
    number bounds the arguments. -/
def openNext : Nat → Doing Bool
  | 0 => return false
  | fuel + 1 => do
    let m ← get
    let count := ((wholeOf? (← valueOf "ARGC").toNumber).getD 0).toNat
    let start (i : Inflow) (name : String) : Doing Bool := do
      modify fun m => { m with main := some i, hadFile := true }
      setGlobal "FILENAME" (.text name)
      setGlobal "FNR" (.number 0)
      return true
    if count ≤ m.nextArgument then
      if m.hadFile then return false else start { number := 0 } "-"
    else
      set { m with nextArgument := m.nextArgument + 1 }
      let t ← tableOf (← arrayOf "ARGV")
      let arg := match t.entries[String.ofList (Decimal.digitsOf m.nextArgument)]? with
        | some (_, v) => v.toText "%.6g"
        | none => ""
      match assignArgument? arg with
      | some (name, value) =>
        setVariable name (.ofInput value)
        openNext fuel
      | none =>
        if arg.isEmpty then openNext fuel
        else if arg = "-" then start { number := 0 } "-"
        else
          match ← perform (Work.openFile arg { reads := true }) with
          | .ok number => start { number } arg
          | .error f =>
            perform (complain ("cannot open \"" ++ arg ++ "\" (" ++ f.message ++ ")"))
            flush
            perform (stop 2)

/-- The next record of the files. The number bounds the files. -/
def nextRecord? : Nat → Doing (Option String)
  | 0 => return none
  | fuel + 1 => do
    match (← get).main with
    | none =>
      if ← openNext 1000000000 then nextRecord? fuel else return none
    | some i =>
      let (record, i) ← i.record
      match record with
      | some s =>
        modify fun m => { m with main := some i }
        let counted (name : String) : Doing Unit := do
          setGlobal name (.number ((← numberOf name) + 1))
        counted "NR"
        counted "FNR"
        return some s
      | none =>
        if i.number ≠ 0 then perform (Work.close i.number)
        modify fun m => { m with main := none }
        nextRecord? fuel
where
  /-- A global variable as a number. -/
  numberOf (name : String) : Doing Float := do
    match (← get).globals[name]? with
    | some (.value v) => return v.toNumber
    | _ => return 0

end SimSweep.Tool.Awk
