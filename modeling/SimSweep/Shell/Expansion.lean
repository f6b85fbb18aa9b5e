import SimSweep.Shell.Arithmetic
import SimSweep.Shell.Assigning
import SimSweep.Shell.Fields
import SimSweep.Shell.Glob
import SimSweep.Shell.Subject

/-! # Expanding words

    What stands in a word for something else is replaced by it: parameters, commands
    by what they print, expressions by their values, and tildes by directories. The
    result is then split into fields where that is wanted. How commands are carried
    out is left open here.
-/

namespace SimSweep.Shell

open Kernel

/-- What a word is used for. -/
structure Use where
  /-- Whether it may become several fields. -/
  splits : Bool := false
  /-- Whether it is assigned, so that a tilde counts behind every colon. -/
  isAssigned : Bool := false
  deriving DecidableEq

/-- The directory that a tilde with a name stands for. -/
def Machine.home? (m : Machine) (name : String) : Option String :=
  if name.isEmpty then m.valueOf? "HOME" else if name = "root" then some "/root" else none

/-- The pieces of characters that stand for themselves, except for tildes at the start
    or behind colons. The number bounds the characters. -/
def tildePieces (m : Machine) (use : Use) (isLast : Bool) : Nat → Bool → List Char → List Piece
  | 0, _, _ => []
  | _, _, [] => []
  | fuel + 1, true, '~' :: cs =>
    let name := cs.takeWhile fun c => c != '/' && !(use.isAssigned && c == ':')
    let after := cs.drop name.length
    match if after.isEmpty ∧ ¬ isLast then none else m.home? (String.ofList name) with
    | some directory =>
      directory.toList.map (.fast · true) ++ tildePieces m use isLast fuel false after
    | none => .fast '~' false :: tildePieces m use isLast fuel false cs
  | fuel + 1, _, c :: cs =>
    .fast c false :: tildePieces m use isLast fuel (use.isAssigned && c == ':') cs

/-- Values as they stand in a word. -/
def listPieces (m : Machine) (use : Use) (isStar quoted : Bool) (values : List String) :
    List Piece :=
  let joint : List Char := match m.valueOf? "IFS" with
    | some s => s.toList.take 1
    | none => [' ']
  let separated (quoted : Bool) : List Piece :=
    ((values.map fun s => s.toList.map fun c =>
      if quoted then Piece.fast c true else .loose c).intersperse [.split]).flatten
  if values.isEmpty then (if quoted ∧ ¬ isStar then [.absent] else [])
  else if use.splits ∧ ¬ quoted then .region false :: separated false
  else if use.splits ∧ ¬ isStar then .region true :: separated true
  else Piece.ofValue quoted ((String.ofList joint).intercalate values)

/-- The arguments of a shell as they stand in a word. -/
def argumentPieces (m : Machine) (use : Use) (isStar quoted : Bool) : List Piece :=
  listPieces m use isStar quoted m.arguments

/-- The value of a parameter that has to be set if the shell insists on it. -/
def knownValue (name : String) : Run String := do
  let m ← get
  match m.parameter? name with
  | some s => return s
  | none =>
    if m.isOn "nounset" ∧ name ≠ "@" ∧ name ≠ "*" then fail (name ++ ": parameter not set")
    return ""

/-- Sends a signal to the shell itself. -/
def signalSelf (number : Nat) : Run Unit := do
  match Signal.ofNumber? number with
  | some s =>
    let self ← liftM Work.self
    liftM (Work.signal self s)
  | none => pure ()

/-- The value of an expression, whose assignments are carried out. -/
def arithmeticValue (cs : List Char) : Run Int := do
  let m ← get
  if m.dialect = .rich then return ← calculate cs
  match Arithmetic.run m.valueOf? cs with
  | .ok (n, assigned) =>
    assigned.forM fun (name, i) => assign name (String.ofList (intText i))
    return n
  | .error .overflow =>
    signalSelf 8
    fail (Arithmetic.Fault.overflow.message (String.ofList cs))
  | .error f => fail (f.message (String.ofList cs))

/-- What the commands in a word are run for. -/
inductive Purpose where
  /-- Their output stands in the word. -/
  | output
  /-- The path of a pipe from them does. -/
  | source
  /-- The path of a pipe to them does. -/
  | drain
  deriving DecidableEq

/-- What runs the commands in a word. -/
abbrev Substitution := Purpose → Script → Run String

/-- The fields of pieces, where patterns stand for the paths that fit them. -/
def fieldsOf (pieces : List Piece) : Run (List String) := do
  let m ← get
  let isAbsent := pieces.any (· matches .absent) &&
    pieces.all fun p => (p matches .absent) || (p matches .anchor)
  if isAbsent then return []
  let fields := Fields.ofPieces m.separators pieces
  let fields := if m.dialect = .rich then fields.map Marked.rich else fields
  if m.isOn "noglob" ∨ ¬ fields.any Glob.isPattern then return fields.map Marked.text
  let w ← liftM (Work.look id)
  return fields.flatMap fun field =>
    let paths := Glob.expand w field
    if m.isOn "nullglob" ∧ Glob.isPattern field ∧ paths = [field.text] then [] else paths

mutual

/-- The pieces that the parts of a word stand for. -/
def expandParts (substitute : Substitution) (use : Use) :
    Bool → List Part → Run (List Piece)
  | _, [] => return []
  | atStart, part :: rest => do
    let pieces ← match part with
      | .text cs false =>
        return (tildePieces (← get) use rest.isEmpty (cs.length + 1) atStart cs) ++
          (← expandParts substitute use (use.isAssigned && cs.getLast? == some ':') rest)
      | part => expandPart substitute use part
    return pieces ++ (← expandParts substitute use false rest)

/-- The pieces that a part of a word stands for. -/
def expandPart (substitute : Substitution) (use : Use) : Part → Run (List Piece)
  | .text cs quoted =>
    if quoted ∧ cs.isEmpty then return [.anchor] else return cs.map (.fast · quoted)
  | .substitution script quoted => return Piece.ofValue quoted (← substitute .output script)
  | .channel script isRead => do
    return Piece.ofValue true (← substitute (if isRead then .source else .drain) script)
  | .elements items => do
    return Piece.ofValue true (listText (← expandItems substitute items))
  | .arithmetic expression quoted => do
    let cs := (Piece.joined (← expandParts substitute {} false expression)).chars
    return Piece.ofValue quoted (String.ofList (intText (← arithmeticValue cs)))
  | .parameter name subscript operation quoted => do
    if (← get).dialect = .rich then
      let subject ← match subscript with
        | none => subjectOf name
        | some parts => do
          let text := (Piece.joined (← expandParts substitute {} false parts)).text
          elementSubject name text
      expandSubject substitute use name quoted subject operation
    else expandParameter substitute use name quoted operation

/-- The elements of a list with their subscripts, if they have any. -/
def expandItems (substitute : Substitution) :
    List (Option (List Part) × List Part) → Run (List (Option String × String))
  | [] => return []
  | (subscript, word) :: rest => do
    let items ← match subscript with
      | some parts => do
        let s := (Piece.joined (← expandParts substitute {} false parts)).text
        let value := (Piece.joined (← expandParts substitute { isAssigned := true } true word)).text
        pure [(some s, value)]
      | none => do
        let pieces ← expandParts substitute { splits := true } true word
        pure ((← fieldsOf pieces).map (none, ·))
    return items ++ (← expandItems substitute rest)

/-- The pieces that what a parameter stands for becomes in the rich dialect. -/
def expandSubject (substitute : Substitution) (use : Use) (name : String) (quoted : Bool)
    (subject : Subject) : Operation → Run (List Piece)
  | .malformed text =>
    failPlainly ("$\x7b" ++ name ++ String.ofList text ++ "\x7d: bad substitution")
  | .value => do subjectPieces use quoted (← subject.known name)
  | .length => do return Piece.ofValue quoted (numberText (← subject.known name).size)
  | .trim atEnd longest pattern => do
    let p := (Piece.joined (← expandParts substitute {} true pattern)).rich
    let subject ← subject.known name
    subjectPieces use quoted <| subject.map fun s =>
      String.ofList (Pattern.trim atEnd longest p s.toList)
  | .slice offset length => do
    let subject ← subject.known name
    let start ← calculate (Piece.joined (← expandParts substitute {} false offset)).chars
    let size ← match length with
      | some parts => do
        let n ← calculate (Piece.joined (← expandParts substitute {} false parts)).chars
        pure (some n)
      | none => pure none
    let shell := (← get).name
    let subject : Subject := match subject, name == "@" || name == "*" with
      | .many values isStar, true => .many (shell :: values) isStar
      | subject, _ => subject
    match subject.slice? start size with
    | some subject => subjectPieces use quoted subject
    | none => failPlainly (wholeText (size.getD 0) ++ ": substring expression < 0")
  | .exchange place pattern replacement => do
    let p := (Piece.joined (← expandParts substitute {} true pattern)).rich
    let r := Piece.joined (← expandParts substitute {} true replacement)
    let subject ← subject.known name
    subjectPieces use quoted <| subject.map fun s =>
      String.ofList (Pattern.exchange place p r s.toList)
  | .recase isUpper all pattern => do
    let p := (Piece.joined (← expandParts substitute {} true pattern)).rich
    let subject ← subject.known name
    subjectPieces use quoted <| subject.map fun s =>
      String.ofList (Pattern.recase isUpper all p s.toList)
  | .transformed letter => do
    match ← transformed letter name (← subject.known name) with
    | some subject => subjectPieces use quoted subject
    | none => failPlainly ("$\x7b" ++ name ++ "@" ++ String.singleton letter ++ "\x7d: bad substitution")
  | .subscripts => do
    let e := (← get).elementsOf name
    subjectPieces use quoted (.many e.subscripts subject.isStar)
  | .names => do
    let m ← get
    let names := (m.bindings.map (·.name)).filter fun n => name.isPrefixOf n
    subjectPieces use quoted (.many (names.mergeSort fun a b => !decide (b < a)) false)
  | .indirect operation => do
    match (← subject.known name).text? with
    | some inner =>
      let (base, subscript) := splitSubscript inner
      let subject ← match subscript with
        | none => subjectOf base
        | some text => elementSubject base text
      expandSubject substitute use base quoted subject operation
    | none => failPlainly (name ++ ": invalid indirect expansion")
  | .substitute how emptyCounts word => do
    match how, subject.isPresent emptyCounts with
    | .replace, false => return []
    | .replace, true | .use, false =>
      let pieces ← expandParts substitute use true word
      return if quoted then pieces else .region false :: pieces.map .loosened
    | _, true => subjectPieces use quoted subject
    | .assign, false =>
      let s := (Piece.joined (← expandParts substitute {} true word)).text
      store name none false s
      return Piece.ofValue quoted s
    | .complain, false =>
      let s := (Piece.joined (← expandParts substitute {} true word)).text
      let usual := if emptyCounts then "parameter null or not set" else "parameter not set"
      quit (name ++ ": " ++ if word.isEmpty then usual else s)
where
  /-- The pieces of what a parameter stands for. -/
  subjectPieces (use : Use) (quoted : Bool) : Subject → Run (List Piece)
    | .one value => return Piece.ofValue quoted (value.getD "")
    | .many values isStar => do return listPieces (← get) use isStar quoted values

/-- The pieces that a parameter stands for. -/
def expandParameter (substitute : Substitution) (use : Use) (name : String)
    (quoted : Bool) : Operation → Run (List Piece)
  | .value => valuePieces use name quoted
  | .length => do
    if name = "@" ∨ name = "*" then
      return Piece.ofValue quoted (numberText (← get).arguments.length)
    else return Piece.ofValue quoted (numberText (← knownValue name).length)
  | .trim atEnd longest pattern => do
    let s ← knownValue name
    let p := Piece.joined (← expandParts substitute {} true pattern)
    return Piece.ofValue quoted (String.ofList (Pattern.trim atEnd longest p s.toList))
  | .substitute how emptyCounts word => do
    let m ← get
    let value := m.parameter? name
    let isPresent := match value with
      | some s => !emptyCounts || !s.isEmpty
      | none => false
    match how, isPresent with
    | .replace, false => return []
    | .replace, true | .use, false =>
      let pieces ← expandParts substitute use true word
      return if quoted then pieces else .region false :: pieces.map .loosened
    | _, true => valuePieces use name quoted
    | .assign, false =>
      let s := (Piece.joined (← expandParts substitute {} true word)).text
      assign name s
      return Piece.ofValue quoted s
    | .complain, false =>
      let s := (Piece.joined (← expandParts substitute {} true word)).text
      let usual := if emptyCounts then "parameter not set or null" else "parameter not set"
      fail (name ++ ": " ++ if word.isEmpty then usual else s)
  | _ => fail "Bad substitution"
where
  /-- The pieces of the value of a parameter. -/
  valuePieces (use : Use) (name : String) (quoted : Bool) : Run (List Piece) := do
    if name = "@" ∨ name = "*" then
      return argumentPieces (← get) use (name == "*") quoted
    else return Piece.ofValue quoted (← knownValue name)

end

/-- The text that a word stands for where it is not split. -/
def expandText (substitute : Substitution) (term : Term) (isAssigned : Bool := false) :
    Run String :=
  return (Piece.joined (← expandParts substitute { isAssigned } true term)).text

/-- The pattern that a word stands for. -/
def expandPattern (substitute : Substitution) (term : Term) : Run Marked := do
  let m ← get
  let p := Piece.joined (← expandParts substitute {} true term)
  return if m.dialect = .rich then p.rich else p

/-- The text of a document. -/
def expandDocument (substitute : Substitution) (term : Term) : Run String :=
  return (Piece.joined (← expandParts substitute {} false term)).text

/-- The fields that a word stands for. -/
def expandFields (substitute : Substitution) (term : Term) : Run (List String) := do
  fieldsOf (← expandParts substitute { splits := true } true term)

/-- The fields that an argument of a command stands for that takes assignments. -/
def expandArgument (substitute : Substitution) (isDeclaration : Bool) (term : Term) :
    Run (List String) := do
  let dialect := (← get).dialect
  match if isDeclaration then assignment? dialect term else none with
  | some (.mk name subscript isAdded value) =>
    let place ← match subscript with
      | some parts => do pure ("[" ++ (← expandText substitute parts) ++ "]")
      | none => pure ""
    let sign := if isAdded then "+=" else "="
    return [name ++ place ++ sign ++ (← expandText substitute value true)]
  | none => expandFields substitute term

end SimSweep.Shell
