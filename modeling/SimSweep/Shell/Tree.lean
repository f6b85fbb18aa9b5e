/-! # Shell commands

    The commands of a shell as trees. A word is a list of parts, each of which
    stands for itself or for something that is put in its place when the command is
    run; a part knows whether it is quoted.
-/

namespace SimSweep.Shell

/-- The language that a shell understands. -/
inductive Dialect where
  /-- The language that all shells have in common. -/
  | plain
  /-- A language with lists, conditions between brackets, calculations and more ways to
      change the value of a parameter. -/
  | rich
  deriving DecidableEq

/-- What is done about a parameter that is not set, or empty. -/
inductive Substitute where
  /-- The word stands in its place. -/
  | use
  /-- The word is assigned to it. -/
  | assign
  /-- The word is the complaint with which the shell ends. -/
  | complain
  /-- The word stands in the place of a parameter that *is* set. -/
  | replace
  deriving DecidableEq

/-- What a redirection does with the file of its target. -/
inductive Direction where
  | read
  /-- Reads and writes a file that is made if there is none. -/
  | readOrMake
  | write
  /-- Writes even if files may not be written over. -/
  | overwrite
  | append
  deriving DecidableEq

/-- Which of the matches of a pattern are exchanged. -/
inductive Place where
  | first
  | every
  | start
  | finish
  deriving DecidableEq

/-- How an arm of a choice goes on when its commands have been run. -/
inductive Sequel where
  | ends
  /-- The commands of the next arm are run, too. -/
  | falls
  /-- The next arm that fits is looked for. -/
  | looks
  deriving DecidableEq

mutual

/-- A part of a word. -/
inductive Part where
  | text (chars : List Char) (quoted : Bool)
  /-- A parameter, or the element of a list that a subscript names. -/
  | parameter (name : String) (subscript : Option (List Part)) (operation : Operation)
      (quoted : Bool)
  | substitution (script : List Item) (quoted : Bool)
  | arithmetic (expression : List Part) (quoted : Bool)
  /-- The elements of a list that is assigned, with their subscripts if they have any. -/
  | elements (items : List (Option (List Part) × List Part))
  /-- The path of a pipe from commands, or to them. -/
  | channel (script : List Item) (isRead : Bool)

/-- What is taken of a parameter. -/
inductive Operation where
  | value
  | length
  | substitute (how : Substitute) (emptyCounts : Bool) (word : List Part)
  /-- The value without a match of a pattern at one of its ends. -/
  | trim (atEnd longest : Bool) (pattern : List Part)
  /-- A piece of the value from an offset on, maybe of some length. -/
  | slice (offset : List Part) (length : Option (List Part))
  /-- The value with something in the place of matches of a pattern. -/
  | exchange (place : Place) (pattern replacement : List Part)
  /-- The value in capital or small letters: all of them, or the first one. -/
  | recase (isUpper all : Bool) (pattern : List Part)
  /-- The value in the form that a letter names. -/
  | transformed (letter : Char)
  /-- An operation on the parameter that the value names. -/
  | indirect (operation : Operation)
  /-- The subscripts of a list. -/
  | subscripts
  /-- The names of variables that start like this one. -/
  | names
  /-- Something that is no operation, with its text. -/
  | malformed (text : List Char)

/-- A name and what is assigned to it. -/
inductive Assignment where
  | mk (name : String) (subscript : Option (List Part)) (isAdded : Bool) (value : List Part)

/-- A condition between brackets. -/
inductive Test where
  | unary (operator : String) (word : List Part)
  | binary (operator : String) (left right : List Part)
  | negation (test : Test)
  | both (left right : Test)
  | either (left right : Test)

/-- A command. -/
inductive Command where
  | simple (line : Nat) (assignments : List Assignment) (words : List (List Part))
      (redirections : List Redirection)
  | compound (line : Nat) (body : Compound) (redirections : List Redirection)
  | define (line : Nat) (name : String) (body : Command)

/-- A command that is made of commands. -/
inductive Compound where
  | group (script : List Item)
  | subshell (script : List Item)
  | conditional (arms : List (List Item × List Item)) (otherwise : List Item)
  | loop (condition : List Item) (untilTrue : Bool) (body : List Item)
  | each (name : String) (words : Option (List (List Part))) (body : List Item)
  | choice (word : List Part) (arms : List (List (List Part) × List Item × Sequel))
  /-- A condition between brackets. -/
  | condition (test : Test)
  /-- An expression that is evaluated. -/
  | calculation (expression : List Part)
  /-- A loop with an expression in front of it, as its condition, and behind each turn. -/
  | counting (start condition step : List Part) (body : List Item)

/-- A redirection of a descriptor. -/
inductive Redirection where
  | file (descriptor : Nat) (direction : Direction) (target : List Part)
  /-- It becomes a copy of another one, or is closed by a dash. -/
  | duplicate (descriptor : Nat) (isInput : Bool) (target : List Part)
  /-- It reads a text that stands behind the commands, under the number of the text. -/
  | document (descriptor : Nat) (number : Nat) (mark : String)
  /-- It reads a word and the end of a line. -/
  | line (descriptor : Nat) (word : List Part)
  /-- The output and the complaints are written to a file. -/
  | both (isAppended : Bool) (target : List Part)

/-- Commands of which each takes the output of the one before. -/
inductive Pipeline where
  | mk (negated : Bool) (commands : List Command)

/-- Pipelines with conditions between them: whether the one before has to succeed,
    or to fail. -/
inductive Item where
  | mk (first : Pipeline) (rest : List (Bool × Pipeline)) (background : Bool)

end

/-- A word. -/
abbrev Term := List Part

/-- Commands that are run in order. -/
abbrev Script := List Item

/-- The texts that stand behind commands, by their numbers. -/
abbrev Documents := List (Nat × Term)

/-- A command whose complaints go where its output goes. -/
def Command.withComplaints : Command → Command
  | .simple line assignments words redirections =>
    .simple line assignments words (redirections ++ [complaints])
  | .compound line body redirections => .compound line body (redirections ++ [complaints])
  | c => c
where
  /-- The redirection of complaints to the output. -/
  complaints : Redirection := .duplicate 2 false [.text ['1'] false]

/-- The characters of a word that stands for itself and is not quoted. -/
def plainText? : Term → Option (List Char)
  | [] => some []
  | .text cs false :: rest => (plainText? rest).map (cs ++ ·)
  | _ :: _ => none

/-- Whether a character may start a name. -/
def startsName (c : Char) : Bool := c.isAlpha || c == '_'

/-- Whether a character may stand in a name. -/
def isNameChar (c : Char) : Bool := c.isAlphanum || c == '_'

/-- Whether a text is a name. -/
def isName (cs : List Char) : Bool :=
  match cs with
  | [] => false
  | c :: rest => startsName c && rest.all isNameChar

/-- The characters for the number of a character. One that is no byte by itself is
    written by its number. -/
def numbered (n : Nat) : List Char :=
  if n < 128 then [Char.ofNat n]
  else
    let digits := (Nat.toDigits 16 n).map Char.toUpper
    let places := if n < 65536 then 4 else 8
    ['\\', if n < 65536 then 'u' else 'U'] ++ List.replicate (places - digits.length) '0' ++ digits

/-- A word that starts with some characters that are not quoted. -/
def withText (cs : List Char) (term : Term) : Term :=
  if cs.isEmpty then term else .text cs false :: term

/-- What stands in a text in front of the bracket that closes a subscript, and behind it,
    where some brackets are open; or how many are open at its end. -/
def bracketIn : Nat → List Char → Nat ⊕ (List Char × List Char)
  | depth, [] => .inl depth
  | 0, ']' :: cs => .inr ([], cs)
  | depth, c :: cs =>
    let depth := if c = '[' then depth + 1 else if c = ']' then depth - 1 else depth
    (bracketIn depth cs).map id fun (inner, after) => (c :: inner, after)

/-- What stands in a word in front of the bracket that closes a subscript, and behind it,
    where some brackets are open. -/
def closedAt? : Nat → Term → Option (Term × Term)
  | _, [] => none
  | depth, .text cs false :: rest =>
    match bracketIn depth cs with
    | .inr (inner, after) => some (withText inner [], withText after rest)
    | .inl depth =>
      (closedAt? depth rest).map fun (inner, after) => (.text cs false :: inner, after)
  | depth, part :: rest => (closedAt? depth rest).map fun (inner, after) => (part :: inner, after)

/-- The value behind an equals sign at the start of a word, in front of which a plus sign
    may stand in the rich dialect, and whether it did. -/
def assigned? (dialect : Dialect) : Term → Option (Bool × Term)
  | .text ('=' :: cs) false :: rest => some (false, withText cs rest)
  | .text ('+' :: '=' :: cs) false :: rest =>
    if dialect = .rich then some (true, withText cs rest) else none
  | _ => none

/-- The assignment that a word is. -/
def assignment? (dialect : Dialect) : Term → Option Assignment
  | .text cs false :: rest =>
    let name := cs.takeWhile isNameChar
    if ¬ isName name then none
    else match dialect, cs.drop name.length with
      | .rich, '[' :: after =>
        match closedAt? 0 (withText after rest) with
        | none => none
        | some (subscript, rest) =>
          (assigned? dialect rest).map fun (isAdded, value) =>
            .mk (String.ofList name) (some subscript) isAdded value
      | _, after =>
        (assigned? dialect (withText after rest)).map fun (isAdded, value) =>
          .mk (String.ofList name) none isAdded value
  | _ => none

end SimSweep.Shell
