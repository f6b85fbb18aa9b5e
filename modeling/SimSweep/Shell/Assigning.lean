import SimSweep.Shell.Calculation
import SimSweep.Shell.Machine

/-! # Assigning

    What is assigned to a variable of the rich dialect may be put under a subscript,
    behind what is there, or in the place of a whole list; it is a number, or in capital
    or small letters, if the variable says so.
-/

namespace SimSweep.Shell

open Kernel

/-! ## Section 1: Elements -/

namespace Machine

/-- The elements of a variable; a text is the element of zero. -/
def elementsOf (m : Machine) (name : String) : Elements :=
  match m.binding? name with
  | some { elements := some e, .. } => e
  | some { value := some s, .. } => .ofList [s]
  | _ => {}

/-- Whether the subscripts of a variable are names. -/
def isNamed (m : Machine) (name : String) : Bool := (m.elementsOf name).isNamed

/-- What calculations know of the variables. -/
def knowledge (m : Machine) : Calculation.Knowledge where
  text name subscript := match subscript with
    | none => m.parameter? name
    | some s => (m.elementsOf name).get? s
  isNamed := m.isNamed
  isStrict := m.isOn "nounset"

end Machine

/-- Puts a text into a variable, or under a subscript. -/
def putText (name : String) (subscript : Option String) (value : String) : Run Unit := do
  match subscript with
  | none => assign name value
  | some s =>
    let m ← get
    let v := (m.binding? name).getD { name, value := none }
    if v.isFrozen then refuseChange name
    set (m.putVariable { v with elements := some ((m.elementsOf name).put s value), value := none })

/-- A whole number as a string. -/
def wholeText (i : Int) : String :=
  (if i < 0 then "-" else "") ++ numberText i.natAbs

/-- The value of an expression, whose assignments are carried out. -/
def calculate (cs : List Char) : Run Int := do
  let m ← get
  match Calculation.run m.knowledge cs with
  | .ok (n, assigned) =>
    assigned.forM fun ((name, subscript), i) => putText name subscript (wholeText i)
    return n
  | .error f => fail f.text

/-- The subscript that a text is, where those of a list that are numbers are calculated,
    and negative ones count from its end. -/
def subscriptOf (name text : String) : Run String := do
  let m ← get
  if m.isNamed name then return text
  let n ← calculate text.toList
  let size := ((← get).elementsOf name).size
  let n := if n < 0 then n + size else n
  if n < 0 then failPlainly (name ++ "[" ++ text ++ "]: bad array subscript")
  return numberText n.toNat

/-- Assigns a text to a variable or to an element, or puts it behind what is there. -/
def store (name : String) (subscript : Option String) (isAdded : Bool) (value : String) :
    Run Unit := do
  let m ← get
  let v := (m.binding? name).getD { name, value := none }
  let old := (match subscript with
    | none => v.text?
    | some s => (m.elementsOf name).get? s).getD ""
  let value ←
    if v.isNumber then do
      let n ← calculate value.toList
      let k ← if isAdded then calculate old.toList else pure 0
      pure (wholeText (Arithmetic.wrap (k + n)))
    else pure (if isAdded then old ++ value else value)
  let value := match v.isUpper with
    | some true => value.map Char.toUpper
    | some false => value.map Char.toLower
    | none => value
  putText name subscript value

/-- Assigns a list of elements, some of them with subscripts, or puts them behind those
    that are there. -/
def storeList (name : String) (isAdded : Bool) (items : List (Option String × String)) :
    Run Unit := do
  let m ← get
  let v := (m.binding? name).getD { name, value := none }
  if v.isFrozen then refuseChange name
  let before := m.elementsOf name
  let start : Elements := if isAdded then before else { isNamed := before.isNamed }
  set (m.putVariable { v with elements := some start, value := none })
  let _ ← items.foldlM (fun (next : Nat) (subscript, value) => do
    let key ← match subscript with
      | some s => subscriptOf name s
      | none => pure (numberText next)
    store name (some key) false value
    return Elements.place key + 1) start.size

/-! ## Section 2: Lists as texts -/

/-- A text between quotes, from which a shell of either dialect reads it back. -/
def enclosed (s : String) : String :=
  String.join ("'" :: s.toList.map (fun c => if c = '\'' then "'\\''" else String.singleton c)
    ++ ["'"])

/-- What marks the text of a list that is no text of a word. -/
def listMark : Char := '\x00'

/-- The text of a list that is assigned. -/
def listText (items : List (Option String × String)) : String :=
  String.singleton listMark ++ "(" ++ " ".intercalate (items.map fun (subscript, value) =>
    (match subscript with
      | some s => "[" ++ enclosed s ++ "]="
      | none => "") ++ enclosed value) ++ ")"

/-- The words of a text, in which quotes take the meaning from blanks. The word at hand
    is given backwards, if there is one; its characters have marks that tell which are
    quoted. -/
def quotedWords : Option (List (Char × Bool)) → List Char → List (List (Char × Bool))
  | row, [] => (row.map List.reverse).toList
  | row, '\\' :: c :: rest => quotedWords (some ((c, true) :: row.getD [])) rest
  | row, c :: rest =>
    if c = '\'' ∨ c = '"' then
      let inner := rest.takeWhile (· ≠ c)
      quotedWords (some ((inner.map (·, true)).reverse ++ row.getD []))
        (rest.drop (inner.length + 1))
    else if isSpace c then (row.map List.reverse).toList ++ quotedWords none rest
    else quotedWords (some ((c, false) :: row.getD [])) rest
termination_by _ cs => cs.length
decreasing_by all_goals simp_all; try omega

/-- The elements of the text of a list, if it is one. -/
def ofListText? (s : String) : Option (List (Option String × String)) :=
  match s.toList.dropWhile (· = listMark), s.toList.getLast? with
  | '(' :: rest, some ')' =>
    let text (cs : List (Char × Bool)) : String := String.ofList (cs.map Prod.fst)
    some ((quotedWords none rest.dropLast).map fun word =>
      match word with
      | ('[', false) :: more =>
        let subscript := more.takeWhile (· ≠ (']', false))
        match more.drop subscript.length with
        | _ :: ('=', false) :: value => (some (text subscript), text value)
        | _ => (none, text word)
      | word => (none, text word))
  | _, _ => none

end SimSweep.Shell
