import SimSweep.Json.Numeral
import SimSweep.Json.Text

/-! # Reading JSON text

    A text is read into a tree that keeps every fault in the place where it was
    noticed. Whoever walks the tree from left to right therefore meets a fault
    of the text and an objection of his own in the order in which they stand,
    and a part that nobody looks at may hold contents that nobody could use.
    `Value.parse` is the walk that objects to nothing but faults.
-/

namespace SimSweep.Json

/-- A JSON text as far as it could be read. -/
inductive Node where
  | null
  | bool (b : Bool)
  | number (content : Except Fault Number)
  | string (content : Except Fault String)
  /-- The items read, and the fault that took the place of the closing bracket. -/
  | array (tooDeep : Option Fault) (items : List Node) (ending : Option Fault)
  /-- The members read, and the fault that took the place of the closing brace. -/
  | object (tooDeep : Option Fault) (members : List (Except Fault String × Node))
      (ending : Option Fault)
  /-- A value that cannot be used: the character with which it starts, if it has one,
      and what is wrong with it. -/
  | broken (start : Option Char) (fault : Fault)

/-- What was read, and what follows, if the text can be followed any further. -/
abbrev Reading (α : Type) := α × Except Fault (List Char)

/-- Arrays and objects may be nested to this depth. -/
def depthLimit : Nat := 127

/-! ## Section 1: The parts of a text -/

/-- The text after the blanks at its start. -/
def skipBlanks (cs : List Char) : List Char :=
  cs.dropWhile fun c => c == ' ' || c == '\n' || c == '\t' || c == '\r'

/-- A reading that ends here. -/
def Reading.fail (start : Option Char) (f : Fault) : Reading Node := (.broken start f, .error f)

/-- Reads the rest of a fixed word that starts with a character. -/
def readWord (node : Node) (start : Char) : List Char → List Char → Reading Node
  | [], rest => (node, .ok rest)
  | _ :: _, [] => Reading.fail (some start) (.here .endInValue [])
  | w :: ws, c :: cs =>
    if c = w then readWord node start ws cs
    else Reading.fail (some start) (.ahead .badWord (c :: cs))

/-- A number that starts with a character as a node; the digits and what follows
    them are given. -/
def readNumberNode (start : Char) (negative : Bool) (cs : List Char) : Reading Node :=
  match readNumber negative cs with
  | .error f => Reading.fail (some start) f
  | .ok (content, rest) => (.number content, .ok rest)

/-- A string after its opening quote as a node. -/
def readStringNode (cs : List Char) : Reading Node :=
  match readString cs with
  | .error f => Reading.fail (some '"') f
  | .ok (content, rest) => (.string (content.map String.ofList), .ok rest)

/-- The fault that takes the place of the end of a list of items or members. -/
def endingOf : Except Fault (List Char) → Option Fault
  | .ok _ => none
  | .error f => some f

/-- The fault of nesting one level more than allowed at an opening bracket. -/
def depthFault (level : Nat) (cs : List Char) : Option Fault :=
  if depthLimit ≤ level then some (.ahead .tooDeep cs) else none

/-! ## Section 2: Values, items and members

    The three readers call each other; `fuel` bounds the number of calls, and
    twice the length of the text is enough since every second call reads a
    character. -/

mutual

/-- Reads a value inside `level` arrays and objects. -/
def readValue : Nat → Nat → List Char → Reading Node
  | 0, _, cs => Reading.fail none (.ahead .noValue cs)
  | fuel + 1, level, cs =>
    match skipBlanks cs with
    | [] => Reading.fail none (.ahead .endInValue [])
    | 'n' :: rest => readWord .null 'n' "ull".toList rest
    | 't' :: rest => readWord (.bool true) 't' "rue".toList rest
    | 'f' :: rest => readWord (.bool false) 'f' "alse".toList rest
    | '-' :: rest => readNumberNode '-' true rest
    | '"' :: rest => readStringNode rest
    | '[' :: rest =>
      let (items, after) := readItems fuel (level + 1) true rest
      (.array (depthFault level ('[' :: rest)) items (endingOf after), after)
    | '\x7b' :: rest =>
      let (members, after) := readMembers fuel (level + 1) true rest
      (.object (depthFault level ('\x7b' :: rest)) members (endingOf after), after)
    | c :: rest =>
      if c.isDigit then readNumberNode c false (c :: rest)
      else Reading.fail (some c) (.ahead .noValue (c :: rest))

/-- Reads the items of an array up to its end. Every item but the first follows
    a comma. -/
def readItems : Nat → Nat → Bool → List Char → Reading (List Node)
  | 0, _, _, cs => ([], .error (.ahead .noValue cs))
  | fuel + 1, level, first, cs =>
    match skipBlanks cs with
    | [] => ([], .error (.ahead .endInList []))
    | ']' :: rest => ([], .ok rest)
    | c :: rest =>
      let start : Except Fault (List Char) :=
        if first then .ok (c :: rest)
        else if c ≠ ',' then .error (.ahead .missingListComma (c :: rest))
        else match skipBlanks rest with
          | [] => .error (.ahead .endInValue [])
          | ']' :: after => .error (.ahead .trailingComma (']' :: after))
          | after => .ok after
      match start with
      | .error f => ([], .error f)
      | .ok start =>
        match readValue fuel level start with
        | (node, .error f) => ([node], .error f)
        | (node, .ok after) =>
          let (nodes, after) := readItems fuel level false after
          (node :: nodes, after)

/-- Reads the members of an object up to its end. A missing colon breaks the
    value of its member. A key that is not a string ends the object. -/
def readMembers : Nat → Nat → Bool → List Char → Reading (List (Except Fault String × Node))
  | 0, _, _, cs => ([], .error (.ahead .noValue cs))
  | fuel + 1, level, first, cs =>
    match skipBlanks cs with
    | [] => ([], .error (.ahead .endInObject []))
    | '\x7d' :: rest => ([], .ok rest)
    | c :: rest =>
      let start : Except Fault (List Char) :=
        if first then .ok (c :: rest)
        else if c ≠ ',' then .error (.ahead .missingObjectComma (c :: rest))
        else match skipBlanks rest with
          | [] => .error (.ahead .endInValue [])
          | '\x7d' :: after => .error (.ahead .trailingComma ('\x7d' :: after))
          | after => .ok after
      match start with
      | .error f => ([], .error f)
      | .ok ('"' :: start) =>
        match readString start with
        | .error f => ([], .error f)
        | .ok (key, after) =>
          let value : Reading Node := match skipBlanks after with
            | [] => Reading.fail none (.ahead .endInObject [])
            | ':' :: after => readValue fuel level after
            | after => Reading.fail none (.ahead .missingColon after)
          match value with
          | (node, .error f) => ([(key.map String.ofList, node)], .error f)
          | (node, .ok after) =>
            let (members, after) := readMembers fuel level false after
            ((key.map String.ofList, node) :: members, after)
      | .ok start => ([], .error (.ahead .keyNotString start))

end

/-- A whole text: its value, and the fault of anything that follows it. -/
structure Document where
  root : Node
  trailing : Option Fault

/-- Reads a whole text. -/
def Document.read (cs : List Char) : Document :=
  match readValue (2 * cs.length + 2) 0 cs with
  | (root, .error f) => ⟨root, some f⟩
  | (root, .ok rest) =>
    match skipBlanks rest with
    | [] => ⟨root, none⟩
    | after => ⟨root, some (.ahead .trailingCharacters after)⟩

/-! ## Section 3: Values -/

/-- Stops at a fault, if there is one. -/
def refuse : Option Fault → Except Fault Unit
  | none => .ok ()
  | some f => .error f

mutual

/-- The value of a node, or its first fault. Objects are in canonical form. -/
def Node.value : Node → Except Fault Value
  | .null => .ok .null
  | .bool b => .ok (.bool b)
  | .number content => content.map .number
  | .string content => content.map .string
  | .array tooDeep items ending => do
    refuse tooDeep
    let vs ← Node.itemValues items
    refuse ending
    return .array vs
  | .object tooDeep members ending => do
    refuse tooDeep
    let vs ← Node.memberValues members
    refuse ending
    return .object (Value.sortMembers vs)
  | .broken _ f => .error f

/-- The values of the items in order. -/
def Node.itemValues : List Node → Except Fault (List Value)
  | [] => .ok []
  | n :: rest => do
    let v ← n.value
    return v :: (← Node.itemValues rest)

/-- The values of the members in order. -/
def Node.memberValues :
    List (Except Fault String × Node) → Except Fault (List (String × Value))
  | [] => .ok []
  | (key, n) :: rest => do
    let k ← key
    let v ← n.value
    return (k, v) :: (← Node.memberValues rest)

end

/-- Reads a text as a value. -/
def Value.parse (cs : List Char) : Except Fault Value := do
  let d := Document.read cs
  let v ← d.root.value
  refuse d.trailing
  return v

end SimSweep.Json
