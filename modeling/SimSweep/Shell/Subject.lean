import SimSweep.Shell.Assigning
import SimSweep.Shell.Builtin.Options
import SimSweep.Shell.Format

/-! # What parameters stand for

    A parameter stands for one text, or for several: the arguments, or the elements of
    a list. What is done to a text is done to each of several ones.
-/

namespace SimSweep.Shell

open Kernel

/-- Ends the shell with a complaint. -/
def quit {α : Type} (message : String) : Run α := do
  emit 2 ({ ← get with command := none }.herald ++ message ++ "\n")
  modify fun m => { m with status := 127, kept := none }
  throw .exit

/-- What a parameter stands for. -/
inductive Subject where
  | one (value : Option String)
  /-- Several texts; whether they are joined where they are quoted. -/
  | many (values : List String) (isStar : Bool)

namespace Subject

/-- Changes each text. -/
def map (f : String → String) : Subject → Subject
  | .one value => .one (value.map f)
  | .many values isStar => .many (values.map f) isStar

/-- The length of a text, or the number of several ones. -/
def size : Subject → Nat
  | .one value => (value.getD "").length
  | .many values _ => values.length

/-- Whether several texts are joined where they are quoted. -/
def isStar : Subject → Bool
  | .one _ => false
  | .many _ isStar => isStar

/-- The only text. -/
def text? : Subject → Option String
  | .one value => value
  | .many values _ => if values.isEmpty then none else some (" ".intercalate values)

/-- Whether there is something, which may have to be more than nothing. -/
def isPresent (emptyCounts : Bool) : Subject → Bool
  | .one (some s) => !emptyCounts || !s.isEmpty
  | .one none => false
  | .many values _ => !values.isEmpty && (!emptyCounts || values.any (!·.isEmpty))

/-- A piece of some length from an offset on; negative numbers count from the end. None
    if the piece would end in front of its start. -/
def cut? {α : Type} (row : List α) (start : Int) (size : Option Int) : Option (List α) :=
  let total : Int := row.length
  let first := if start < 0 then start + total else start
  if first < 0 ∨ total < first then some []
  else match size with
    | none => some (row.drop first.toNat)
    | some n =>
      if n < 0 then
        let last := total + n
        if last < first then none else some ((row.take last.toNat).drop first.toNat)
      else some ((row.drop first.toNat).take n.toNat)

/-- A piece of a text, or some of several texts. -/
def slice? (subject : Subject) (start : Int) (size : Option Int) : Option Subject :=
  match subject with
  | .one value =>
    (cut? (value.getD "").toList start size).map fun cs => .one (some (String.ofList cs))
  | .many values isStar =>
    if size.any (· < 0) then none else (cut? values start size).map (.many · isStar)

/-- What a parameter stands for, if it has to be set and is. -/
def known (subject : Subject) (name : String) : Run Subject := do
  match subject with
  | .one none =>
    if (← get).isOn "nounset" then
      let sign := if (name.toList.head?.any fun c => c.isDigit || c == '!') then "$" else ""
      quit (sign ++ name ++ ": unbound variable")
    return subject
  | _ => return subject

end Subject

/-- The lists that the shell keeps itself. -/
def Machine.ownList? (m : Machine) (name : String) : Option (List String) :=
  match name with
  | "PIPESTATUS" => some (m.statuses.map numberText)
  | "FUNCNAME" => if m.callers.isEmpty then none else some (m.callers ++ ["main"])
  | _ => none

/-- What a parameter without a subscript stands for. -/
def subjectOf (name : String) : Run Subject := do
  let m ← get
  match name with
  | "@" => return .many m.arguments false
  | "*" => return .many m.arguments true
  | "LINENO" => return .one (some (numberText m.line))
  | "BASHPID" => return .one (some (numberText (← Work.self)))
  | _ =>
    match m.ownList? name with
    | some values => return .one values.head?
    | none => return .one (m.parameter? name)

/-- What a parameter with a subscript stands for. -/
def elementSubject (name subscript : String) : Run Subject := do
  let m ← get
  let e := match m.ownList? name with
    | some values => Elements.ofList values
    | none => m.elementsOf name
  if subscript = "@" then return .many e.values false
  else if subscript = "*" then return .many e.values true
  else return .one (e.get? (← subscriptOf name subscript))

/-- A name and the subscript behind it, if there is one. -/
def splitSubscript (s : String) : String × Option String :=
  let name := s.toList.takeWhile (· ≠ '[')
  match s.toList.drop name.length with
  | '[' :: rest =>
    if rest.getLast? = some ']' then (String.ofList name, some (String.ofList rest.dropLast))
    else (s, none)
  | _ => (s, none)

/-- A text in single quotes, behind a dollar sign if it has characters that cannot be
    shown. -/
def shownQuoted (s : String) : String :=
  if s.toList.all Format.isShownPlainly then enclosed s else Format.dollarQuoted s

/-- What a parameter stands for in the form that a letter names; none if there is no such
    form. -/
def transformed (letter : Char) (name : String) (subject : Subject) : Run (Option Subject) := do
  let m ← get
  let first (f : Char → Char) (s : String) : String :=
    match s.toList with
    | [] => ""
    | c :: cs => String.ofList (f c :: cs)
  match letter with
  | 'Q' => return some (subject.map shownQuoted)
  | 'U' => return some (subject.map (·.map Char.toUpper))
  | 'L' => return some (subject.map (·.map Char.toLower))
  | 'u' => return some (subject.map (first Char.toUpper))
  | 'E' | 'P' => return some subject
  | 'a' =>
    let letters := match m.binding? name with
      | none => ""
      | some v =>
        (match v.elements with
          | some e => if e.isNamed then "A" else "a"
          | none => "") ++ (if v.isNumber then "i" else "") ++ (if v.isFrozen then "r" else "") ++
          (if v.isExported then "x" else "")
    return some (.one (some letters))
  | 'A' =>
    return some (subject.map fun s => name ++ "=" ++ shownQuoted s)
  | _ => return none

end SimSweep.Shell
