import SimSweep.Tool.Deed

/-! # Options of tools

    An option is a letter behind a dash, or a name behind two; names may be cut short as
    long as it is clear which one is meant. Options and operands may be mixed, unless a
    tool runs the command that follows its options.
-/

namespace SimSweep.Tool

/-- Whether an option takes a value. -/
inductive Taking where
  | nothing
  | value
  /-- There is a value only if it stands in the same argument. -/
  | maybe
  deriving DecidableEq

/-- An option. -/
structure Choice where
  letter : Char
  /-- The name behind two dashes. -/
  name : String := ""
  takes : Taking := .nothing

/-- Options without names, and without values. -/
def flags (letters : String) : List Choice := letters.toList.map fun letter => { letter }

/-- Options that were given, and the other arguments. -/
structure Given where
  options : List (Char × String) := []
  operands : List String := []

namespace Given

/-- Whether an option was given. -/
def has (g : Given) (letter : Char) : Bool := g.options.any (·.1 == letter)

/-- The last value of an option. -/
def value? (g : Given) (letter : Char) : Option String := g.options.reverse.lookup letter

/-- All values of an option. -/
def values (g : Given) (letter : Char) : List String :=
  g.options.filterMap fun (c, s) => if c == letter then some s else none

/-- The last of some options that was given. -/
def last? (g : Given) (letters : String) : Option Char :=
  ((g.options.map Prod.fst).filter letters.toList.contains).getLast?

end Given

/-- What a tool does about arguments that it cannot follow: it says so and ends. -/
abbrev Refusal : Type := String → Deed Unit

/-- The option that is meant by a name. -/
def choiceOf (choices : List Choice) (refuse : Refusal) (name : String) : Deed Choice := do
  match choices.find? fun c => c.name == name && !name.isEmpty with
  | some c => return c
  | none =>
    match choices.filter fun c => !c.name.isEmpty && name.isPrefixOf c.name with
    | [c] => return c
    | [] =>
      refuse ("unrecognized option '--" ++ name ++ "'")
      stop 1
    | several =>
      let names := several.map fun c => " '--" ++ c.name ++ "'"
      refuse ("option '--" ++ name ++ "' is ambiguous; possibilities:" ++ String.join names)
      stop 1

/-- Takes options out of arguments. The number bounds the letters. -/
def takeChoices (choices : List Choice) (refuse : Refusal) (isOrdered : Bool) :
    Nat → List Char → List String → Given → Deed Given
  | 0, _, _, g => return g
  | _, [], [], g => return g
  | fuel + 1, [], a :: rest, g => do
    let go (rest : List String) (g : Given) : Deed Given :=
      takeChoices choices refuse isOrdered fuel [] rest g
    match a.toList with
    | ['-', '-'] => return { g with operands := g.operands ++ rest }
    | '-' :: '-' :: cs =>
      let name := String.ofList (cs.takeWhile (· ≠ '='))
      let choice ← choiceOf choices refuse name
      let title := "option '--" ++ choice.name ++ "'"
      let add (value : String) : Given :=
        { g with options := g.options ++ [(choice.letter, value)] }
      match cs.drop name.length, choice.takes with
      | _ :: _, .nothing =>
        refuse (title ++ " doesn't allow an argument")
        return g
      | _ :: value, _ => go rest (add (String.ofList value))
      | [], .value =>
        match rest with
        | [] =>
          refuse (title ++ " requires an argument")
          return g
        | value :: rest => go rest (add value)
      | [], _ => go rest (add "")
    | '-' :: c :: cs => takeChoices choices refuse isOrdered fuel (c :: cs) rest g
    | _ =>
      if isOrdered then return { g with operands := g.operands ++ (a :: rest) }
      else go rest { g with operands := g.operands ++ [a] }
  | fuel + 1, c :: cs, rest, g => do
    let go := takeChoices choices refuse isOrdered fuel
    let add (value : String) : Given := { g with options := g.options ++ [(c, value)] }
    match choices.find? (·.letter == c) with
    | none =>
      refuse ("invalid option -- '" ++ String.singleton c ++ "'")
      return g
    | some choice =>
      match choice.takes, cs, rest with
      | .nothing, _, _ => go cs rest (add "")
      | .maybe, _, _ => go [] rest (add (String.ofList cs))
      | .value, [], [] =>
        refuse ("option requires an argument -- '" ++ String.singleton c ++ "'")
        return g
      | .value, [], value :: rest => go [] rest (add value)
      | .value, _, _ => go [] rest (add (String.ofList cs))

/-- Takes options out of arguments. -/
def takeOptionsOr (refuse : Refusal) (choices : List Choice) (args : List String)
    (isOrdered : Bool := false) : Deed Given :=
  takeChoices choices refuse isOrdered ((args.map fun a => a.length + 1).foldl (· + ·) 1) [] args {}

/-- Takes options out of arguments. The status is the one for arguments that cannot be
    followed. -/
def takeOptions (choices : List Choice) (args : List String) (status : Nat := 1)
    (isOrdered : Bool := false) : Deed Given :=
  takeOptionsOr (misuse · status) choices args isOrdered

/-- The options and operands among the arguments of the tool. -/
def options (choices : List Choice) (status : Nat := 1) (isOrdered : Bool := false) :
    Deed Given := do
  takeOptions choices (← read).args status isOrdered

end SimSweep.Tool
