import SimSweep.Shell.Pattern

/-! # Regular expressions

    A regular expression fits the longest part of a text that it can, at the first place
    where it fits any. There are two ways to write them: in the basic one parentheses and
    braces have a meaning behind a backslash, in the extended one without.
-/

namespace SimSweep.Tool

/-- A part of a set of characters. -/
inductive Member where
  | range (first last : Char)
  | class (name : String)
  deriving DecidableEq

/-- A place between characters. -/
inductive Spot where
  | lineStart
  | lineEnd
  | wordStart
  | wordEnd
  | wordEdge
  | inside
  | textStart
  | textEnd
  /-- No word ends here. -/
  | behindNoWord
  /-- No word starts here. -/
  | beforeNoWord
  deriving DecidableEq

/-- A regular expression. -/
inductive Regex where
  | nothing
  | char (c : Char)
  | any
  | oneOf (isNegated : Bool) (members : List Member)
  | spot (s : Spot)
  | group (number : Nat) (r : Regex)
  /-- What a group has fitted. -/
  | back (number : Nat)
  | both (r s : Regex)
  | either (r s : Regex)
  /-- So many times at least, and maybe so many at most. -/
  | times (r : Regex) (least : Nat) (most : Option Nat)

/-- The names of classes of characters. -/
def classNames : List String :=
  ["alpha", "digit", "alnum", "upper", "lower", "space", "blank", "punct", "print", "graph",
   "cntrl", "xdigit"]

/-- Whether a character belongs to a named class, if there is one of that name. -/
def isOfClass? (name : String) (c : Char) : Option Bool :=
  if classNames.contains name then some (Shell.isOfClass name c) else none

/-- Whether a character counts as part of a word. -/
def isWordChar (c : Char) : Bool := c.isAlphanum || c == '_'

/-- Whether a character is a member of a part of a set. -/
def Member.has (ignoresCase : Bool) (c : Char) : Member → Bool
  | .range a b =>
    let fits (c : Char) : Bool := a.toNat ≤ c.toNat && c.toNat ≤ b.toNat
    fits c || (ignoresCase && (fits c.toLower || fits c.toUpper))
  | .class name =>
    let name := if ignoresCase ∧ (name = "upper" ∨ name = "lower") then "alpha" else name
    (isOfClass? name c).getD false

/-! ## Section 1: Fitting -/

namespace Regex

/-- A text in which something is looked for, and how. -/
structure Text where
  chars : Array Char
  ignoresCase : Bool := false
  /-- Whether ends of lines inside the text count as such. -/
  hasLines : Bool := false
  /-- Whether the start of the text counts as a start of a line. -/
  startsLine : Bool := true

/-- The parts of a text that groups have fitted, by their numbers. -/
abbrev Groups := List (Nat × Nat × Nat)

/-- A part of a text that fits, with the parts that its groups fit. -/
structure Fit where
  first : Nat
  last : Nat
  groups : Groups := []

/-- Whether a place in a text is of some kind. -/
def Text.isAt (t : Text) (i : Nat) (s : Spot) : Bool :=
  let before := if i = 0 then none else t.chars[i - 1]?
  let after := t.chars[i]?
  let wordBefore := before.any isWordChar
  let wordAfter := after.any isWordChar
  match s with
  | .lineStart => (i == 0 && t.startsLine) || (t.hasLines && before == some '\n')
  | .lineEnd => i == t.chars.size || (t.hasLines && after == some '\n')
  | .wordStart => !wordBefore && wordAfter
  | .wordEnd => wordBefore && !wordAfter
  | .wordEdge => wordBefore != wordAfter
  | .inside => wordBefore == wordAfter
  | .textStart => i == 0
  | .textEnd => i == t.chars.size
  | .behindNoWord => !wordBefore
  | .beforeNoWord => !wordAfter

/-- Whether two characters are the same for a search. -/
def Text.areSame (t : Text) (a b : Char) : Bool :=
  a == b || (t.ignoresCase && a.toLower == b.toLower)

/-- The longest of what a regular expression fits from a place on, where what follows is
    given. The first of several is taken. The number bounds the steps in a row. -/
def walk (t : Text) :
    Nat → Regex → Nat → Groups → Option Fit → (Nat → Groups → Option Fit → Option Fit) → Option Fit
  | 0, _, _, _, best, _ => best
  | fuel + 1, r, i, groups, best, next =>
    if best.any fun fit => fit.last == t.chars.size then best
    else match r with
      | .nothing => next i groups best
      | .char c =>
        match t.chars[i]? with
        | some d => if t.areSame c d then next (i + 1) groups best else best
        | none => best
      | .any => if i < t.chars.size then next (i + 1) groups best else best
      | .oneOf isNegated members =>
        match t.chars[i]? with
        | some d =>
          if (members.any (·.has t.ignoresCase d)) != isNegated then next (i + 1) groups best
          else best
        | none => best
      | .spot s => if t.isAt i s then next i groups best else best
      | .group n r =>
        walk t fuel r i groups best fun j inner best =>
          next j ((n, i, j) :: inner.filter (·.1 != n)) best
      | .back n =>
        match groups.lookup n with
        | none => best
        | some (a, b) =>
          let fits := (List.range (b - a)).all fun k =>
            match t.chars[a + k]?, t.chars[i + k]? with
            | some c, some d => t.areSame c d
            | _, _ => false
          if fits then next (i + (b - a)) groups best else best
      | .both r s =>
        walk t fuel r i groups best fun j groups best => walk t fuel s j groups best next
      | .either r s =>
        let best := walk t fuel r i groups best next
        walk t fuel s i groups best next
      | .times r least most =>
        let best :=
          if most = some 0 then best
          else walk t fuel r i groups best fun j inner best =>
            if j = i ∧ least = 0 then best
            else walk t fuel (.times r (least - 1) (most.map (· - 1))) j inner best next
        if least = 0 then next i groups best else best

/-- The depth of steps that no text reaches. -/
def stepLimit : Nat := 1000000000000000

/-- What a regular expression fits from a place on. -/
def fitAt? (r : Regex) (t : Text) (i : Nat) : Option Fit :=
  walk t stepLimit r i [] none fun j groups best =>
    match best with
    | some fit => if fit.last < j then some { first := i, last := j, groups } else best
    | none => some { first := i, last := j, groups }

/-- The first place from some place on where a regular expression fits. -/
def find? (r : Regex) (t : Text) (start : Nat) : Option Fit :=
  (List.range (t.chars.size + 1 - start)).findSome? fun k => r.fitAt? t (start + k)

/-- The characters of a part of a text. -/
def Text.between (t : Text) (first last : Nat) : List Char := (t.chars.extract first last).toList

/-- What a group has fitted; number zero is all of it. -/
def Fit.group (f : Fit) (t : Text) (n : Nat) : List Char :=
  if n = 0 then t.between f.first f.last
  else match f.groups.lookup n with
    | some (a, b) => t.between a b
    | none => []

/-! ## Section 2: Reading -/

/-- What is wrong with a regular expression. -/
inductive Flaw where
  | openGroup
  | closedGroup
  | openSet
  | emptySet
  | openInterval
  | badInterval
  | tooBig
  | badRange
  | badRepeat
  | badClass
  | trailingBackslash
  | badReference
  deriving DecidableEq

/-- The wording of a flaw. -/
def Flaw.message : Flaw → String
  | .openGroup => "Unmatched ( or \\("
  | .closedGroup => "Unmatched ) or \\)"
  | .openSet => "Unmatched [, [^, [:, [., or [="
  | .emptySet => "Invalid regular expression"
  | .openInterval => "Unmatched \\\x7b"
  | .badInterval => "Invalid content of \\\x7b\\\x7d"
  | .badRange => "Invalid range end"
  | .badRepeat => "Invalid preceding regular expression"
  | .badClass => "Invalid character class name"
  | .tooBig => "Regular expression too big"
  | .trailingBackslash => "Trailing backslash"
  | .badReference => "Invalid back reference"

/-- A text that is being read, with the groups that were read so far. -/
structure Source where
  rest : List Char
  isExtended : Bool
  /-- The number of groups that were opened. -/
  opened : Nat := 0
  /-- The number of groups that are open. -/
  depth : Nat := 0
  /-- Whether backslashes and letters stand for characters in sets, too. -/
  escapesInSets : Bool := false
  /-- Whether something has to stand in front of what says how often it fits. -/
  isStrict : Bool := false

/-- A reader of regular expressions. -/
abbrev Reader (α : Type) := StateT Source (Except Flaw) α

/-- Takes characters if the text goes on with them. -/
def take (cs : List Char) : Reader Bool := modifyGet fun s =>
  if cs.isPrefixOf s.rest then (true, { s with rest := s.rest.drop cs.length }) else (false, s)

/-- Takes an operator: a character that needs a backslash where the text is not
    extended. -/
def takeOperator (c : Char) : Reader Bool := do
  take (if (← get).isExtended then [c] else ['\\', c])

/-- Whether the text goes on with an operator. -/
def isOperator (s : Source) (c : Char) : Bool :=
  (if s.isExtended then [c] else ['\\', c]).isPrefixOf s.rest

/-- Reads the members of a set up to the closing bracket. The number bounds them. -/
def readMembers : Nat → Bool → Reader (List Member)
  | 0, _ => throw .openSet
  | fuel + 1, isFirst => do
    let s ← get
    let named (mark : Char) (rest : List Char) : Reader (String × List Char) := do
      let name := rest.takeWhile (· ≠ mark)
      match rest.drop name.length with
      | _ :: ']' :: after => return (String.ofList name, after)
      | _ => throw .openSet
    let single : List Char → Reader (Option Char × List Member × List Char)
      | '[' :: ':' :: rest => do
        let (name, after) ← named ':' rest
        if (isOfClass? name 'a').isNone then throw .badClass
        return (none, [.class name], after)
      | '[' :: '.' :: rest => do
        let (name, after) ← named '.' rest
        let c := name.toList.head?.getD ' '
        return (some c, [.range c c], after)
      | '[' :: '=' :: rest => do
        let (name, after) ← named '=' rest
        let c := name.toList.head?.getD ' '
        return (none, [.range c c], after)
      | '\\' :: c :: rest => do
        if s.escapesInSets then
          let d := match c with
            | 'n' => '\n'
            | 't' => '\t'
            | c => c
          return (some d, [.range d d], rest)
        else return (some '\\', [.range '\\' '\\'], c :: rest)
      | c :: rest => return (some c, [.range c c], rest)
      | [] => throw .openSet
    match s.rest with
    | ']' :: rest =>
      if isFirst then
        set { s with rest }
        readRange fuel ']' rest
      else
        set { s with rest }
        return []
    | rest =>
      let (c, members, after) ← single rest
      set { s with rest := after }
      match c, after with
      | some a, '-' :: ']' :: _ => return .range a a :: (← readMembers fuel false)
      | some a, '-' :: more =>
        let (b, _, after) ← single more
        match b with
        | none => throw .badRange
        | some b =>
          if b.toNat < a.toNat then throw .badRange
          set { s with rest := after }
          return .range a b :: (← readMembers fuel false)
      | _, _ => return members ++ (← readMembers fuel false)
where
  /-- Reads what follows a closing bracket that stands first in a set. -/
  readRange (fuel : Nat) (a : Char) (rest : List Char) : Reader (List Member) := do
    match rest with
    | '-' :: ']' :: _ => return .range a a :: (← readMembers fuel false)
    | '-' :: b :: after =>
      if b.toNat < a.toNat then throw .badRange
      modify fun s => { s with rest := after }
      return .range a b :: (← readMembers fuel false)
    | _ => return .range a a :: (← readMembers fuel false)

/-- The greatest number in an interval. -/
def intervalLimit : Nat := 32767

/-- Reads an interval behind its opening brace; none if it is not one. -/
def interval? (s : Source) : Option (Nat × Option Nat × List Char) :=
  let lo := s.rest.takeWhile Char.isDigit
  let rest := s.rest.drop lo.length
  let close := if s.isExtended then ['\x7d'] else ['\\', '\x7d']
  let finish (least : Nat) (most : Option Nat) (rest : List Char) :=
    if close.isPrefixOf rest then some (least, most, rest.drop close.length) else none
  match rest with
  | ',' :: more =>
    let hi := more.takeWhile Char.isDigit
    finish (Decimal.valueOf lo) (if hi.isEmpty then none else some (Decimal.valueOf hi))
      (more.drop hi.length)
  | _ =>
    if lo.isEmpty then none
    else finish (Decimal.valueOf lo) (some (Decimal.valueOf lo)) rest

/-- Whether the text goes on with what says how often something fits. -/
def isRepeat (s : Source) : Bool :=
  s.rest.head? == some '*' || isOperator s '+' || isOperator s '?' || isOperator s '\x7b'

/-- Adds what says how often something fits. The number bounds the additions. -/
def readRepeats : Nat → Regex → Reader Regex
  | 0, r => return r
  | fuel + 1, r => do
    let s ← get
    let isRefused : Bool := match r with
      | .spot _ => s.isExtended
      | .times _ _ _ => !s.isExtended
      | _ => false
    if s.isStrict ∧ isRefused ∧ isRepeat s then throw .badRepeat
    if ← take ['*'] then readRepeats fuel (.times r 0 none)
    else if ← takeOperator '+' then readRepeats fuel (.times r 1 none)
    else if ← takeOperator '?' then readRepeats fuel (.times r 0 (some 1))
    else if isOperator s '\x7b' then
      let _ ← takeOperator '\x7b'
      match interval? (← get) with
      | some (least, most, rest) =>
        if most.any (· < least) then throw .badInterval
        if intervalLimit < max least (most.getD 0) then throw .tooBig
        modify fun s => { s with rest }
        readRepeats fuel (.times r least most)
      | none =>
        if s.isExtended ∧ ¬ s.isStrict then
          set s
          return r
        else if (s.rest.drop 2).contains '\x7d' then throw .badInterval
        else throw .openInterval
    else return r

mutual

/-- Reads regular expressions of which one has to fit. -/
def readChoice : Nat → Reader Regex
  | 0 => throw .openGroup
  | fuel + 1 => do
    let r ← readRow fuel true
    if ← takeOperator '|' then return .either r (← readChoice fuel)
    else return r

/-- Reads regular expressions that have to fit one after the other. -/
def readRow : Nat → Bool → Reader Regex
  | 0, _ => throw .openGroup
  | fuel + 1, isFirst => do
    let s ← get
    if s.rest.isEmpty ∨ isOperator s '|' then return .nothing
    if isOperator s ')' ∧ (0 < s.depth ∨ ¬ s.isExtended ∨ s.isStrict) then
      if s.depth = 0 then throw .closedGroup
      return .nothing
    let (r, isAnchor) ← readOne fuel isFirst
    let r ← if isAnchor ∧ ¬ s.isExtended then pure r else readRepeats fuel r
    let isStart := isFirst && isAnchor && !s.isExtended
    return .both r (← readRow fuel isStart)

/-- Reads a regular expression without anything that says how often it fits. The result
    says whether it is an anchor. -/
def readOne : Nat → Bool → Reader (Regex × Bool)
  | 0, _ => throw .openGroup
  | fuel + 1, isFirst => do
    let s ← get
    let plain (c : Char) (rest : List Char) : Reader (Regex × Bool) := do
      set { s with rest }
      return (.char c, false)
    let spot (p : Spot) (rest : List Char) : Reader (Regex × Bool) := do
      set { s with rest }
      return (.spot p, false)
    if isOperator s '(' then
      let _ ← takeOperator '('
      let number := s.opened + 1
      modify fun s => { s with opened := number, depth := s.depth + 1 }
      let r ← readChoice fuel
      if ← takeOperator ')' then
        modify fun s => { s with depth := s.depth - 1 }
        return (.group number r, false)
      else throw .openGroup
    if s.isStrict ∧ s.isExtended ∧ isFirst ∧ isRepeat s then throw .badRepeat
    match s.rest with
    | [] => return (.nothing, false)
    | '.' :: rest =>
      set { s with rest }
      return (.any, false)
    | '[' :: rest =>
      let (isNegated, rest) := match rest with
        | '^' :: more => (true, more)
        | more => (false, more)
      set { s with rest }
      if rest.isEmpty then throw .emptySet
      let members ← readMembers (rest.length + 1) true
      return (.oneOf isNegated members, false)
    | '^' :: rest =>
      if s.isExtended ∨ isFirst then
        set { s with rest }
        return (.spot .lineStart, true)
      else plain '^' rest
    | '$' :: rest =>
      let isLast := s.isExtended || rest.isEmpty || ['\\', ')'].isPrefixOf rest ||
        ['\\', '|'].isPrefixOf rest
      if isLast then
        set { s with rest }
        return (.spot .lineEnd, false)
      else plain '$' rest
    | '*' :: rest =>
      if s.isExtended then
        set { s with rest }
        return (.nothing, false)
      else plain '*' rest
    | '\\' :: c :: rest =>
      let word (isNegated : Bool) : Reader (Regex × Bool) := do
        set { s with rest }
        return (.oneOf isNegated [.class "alnum", .range '_' '_'], false)
      let space (isNegated : Bool) : Reader (Regex × Bool) := do
        set { s with rest }
        return (.oneOf isNegated [.class "space"], false)
      match c with
      | 'w' => word false
      | 'W' => word true
      | 's' => space false
      | 'S' => space true
      | '<' => spot .wordStart rest
      | '>' => spot .wordEnd rest
      | 'b' => spot .wordEdge rest
      | 'B' => spot .inside rest
      | '\x60' => spot .textStart rest
      | '\'' => spot .textEnd rest
      | c =>
        if '1' ≤ c ∧ c ≤ '9' then
          let n := c.toNat - '0'.toNat
          if s.opened < n then throw .badReference
          set { s with rest }
          return (.back n, false)
        else plain c rest
    | ['\\'] => throw .trailingBackslash
    | c :: rest =>
      if s.isExtended ∧ (c = '+' ∨ c = '?') ∧ isFirst then
        set { s with rest }
        return (.nothing, false)
      else match if s.isExtended ∧ c = '\x7b' ∧ isFirst then interval? { s with rest } else none with
        | some (_, _, rest) =>
          set { s with rest }
          return (.nothing, false)
        | none => plain c rest

end

/-- The regular expression that a text denotes. -/
def ofText (isExtended : Bool) (cs : List Char) (escapesInSets isStrict : Bool := false) :
    Except Flaw Regex := do
  let (r, s) ← (readChoice stepLimit).run { rest := cs, isExtended, escapesInSets, isStrict }
  if s.rest.isEmpty then return r else throw .closedGroup

end Regex

end SimSweep.Tool
