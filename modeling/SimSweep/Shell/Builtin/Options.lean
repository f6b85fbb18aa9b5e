import SimSweep.Shell.Machine
import SimSweep.Shell.Numeral

/-! # Arguments of built-in commands

    Options are letters behind a dash in front of the other arguments; a letter may
    take an argument of its own. Numbers are whole and not negative.
-/

namespace SimSweep.Shell.Builtin

/-- The number that an argument has to be: not negative, and in 32 bits with a sign. -/
def countOf (s : String) : Run Nat :=
  match Numeral.integer? s with
  | some i => if 0 ≤ i ∧ i < Nat.pow 2 31 then return i.toNat else fail ("Illegal number: " ++ s)
  | none => fail ("Illegal number: " ++ s)

/-- How the commands of the rich dialect are called. -/
def usage : String → String
  | "." => ". filename [arguments]"
  | "alias" => "alias [-p] [name[=value] ... ]"
  | "builtin" => "builtin [shell-builtin [arg ...]]"
  | "cd" => "cd [-L|[-P [-e]] [-@]] [dir]"
  | "command" => "command [-pVv] command [arg ...]"
  | "declare" =>
    "declare [-aAfFgiIlnrtux] [name[=value] ...] or declare -p [-aAfFilnrtux] [name ...]"
  | "dirs" => "dirs [-clpv] [+N] [-N]"
  | "eval" => "eval [arg ...]"
  | "exec" => "exec [-cl] [-a name] [command [argument ...]] [redirection ...]"
  | "exit" => "exit [n]"
  | "export" => "export [-fn] [name[=value] ...] or export -p"
  | "getopts" => "getopts optstring name [arg ...]"
  | "hash" => "hash [-lr] [-p pathname] [-dt] [name ...]"
  | "jobs" => "jobs [-lnprs] [jobspec ...] or jobs -x command [args]"
  | "kill" => "kill [-s sigspec | -n signum | -sigspec] pid | jobspec ... or kill -l [sigspec]"
  | "let" => "let arg [arg ...]"
  | "local" => "local [option] name[=value] ..."
  | "mapfile" => "mapfile [-d delim] [-n count] [-O origin] [-s count] [-t] [-u fd] " ++
    "[-C callback] [-c quantum] [array]"
  | "popd" => "popd [-n] [+N | -N]"
  | "printf" => "printf [-v var] format [arguments]"
  | "pushd" => "pushd [-n] [+N | -N | dir]"
  | "pwd" => "pwd [-LP]"
  | "read" => "read [-ers] [-a array] [-d delim] [-i text] [-n nchars] [-N nchars] [-p prompt] " ++
    "[-t timeout] [-u fd] [name ...]"
  | "readarray" => "readarray [-d delim] [-n count] [-O origin] [-s count] [-t] [-u fd] " ++
    "[-C callback] [-c quantum] [array]"
  | "readonly" => "readonly [-aAf] [name[=value] ...] or readonly -p"
  | "return" => "return [n]"
  | "set" => "set [-abefhkmnptuvxBCEHPT] [-o option-name] [--] [-] [arg ...]"
  | "shift" => "shift [n]"
  | "shopt" => "shopt [-pqsu] [-o] [optname ...]"
  | "source" => "source filename [arguments]"
  | "trap" => "trap [-lp] [[arg] signal_spec ...]"
  | "type" => "type [-afptP] name [name ...]"
  | "typeset" => "typeset [-aAfFgiIlnrtux] name[=value] ... or typeset -p [-aAfFilnrtux] [name ...]"
  | "ulimit" => "ulimit [-SHabcdefiklmnpqrstuvxPRT] [limit]"
  | "umask" => "umask [-p] [-S] [mode]"
  | "unalias" => "unalias [-a] name [name ...]"
  | "unset" => "unset [-f] [-v] [-n] [name ...]"
  | "wait" => "wait [-fn] [-p var] [id ...]"
  | name => name

/-- Says how the present command is called, and ends it. -/
def showUsage {α : Type} : Run α := do
  let name := (← get).command.getD ""
  emit 2 (name ++ ": usage: " ++ usage name ++ "\n")
  setStatus 2
  throw .failed

/-- Whether a letter is among the options, and whether it takes an argument. -/
def optionOf? (letters : List Char) (c : Char) : Option Bool :=
  match letters with
  | [] => none
  | d :: rest =>
    if d = c ∧ c ≠ ':' then some (rest.head? == some ':') else optionOf? rest c

/-- Splits the options in front of some arguments from what follows them. Two dashes
    are the end of the options. The number bounds the letters. -/
def takeOptions (letters : List Char) :
    Nat → List Char → List String → Run (List (Char × String) × List String)
  | 0, _, args => return ([], args)
  | fuel + 1, c :: cs, args => do
    match optionOf? letters c with
    | none =>
      if (← get).dialect = .rich then
        complain ("-" ++ String.singleton c ++ ": invalid option")
        showUsage
      fail ("Illegal option -" ++ String.singleton c)
    | some false =>
      let (options, operands) ← takeOptions letters fuel cs args
      return ((c, "") :: options, operands)
    | some true =>
      match cs, args with
      | [], [] =>
        if (← get).dialect = .rich then
          complain ("-" ++ String.singleton c ++ ": option requires an argument")
          showUsage
        fail ("No arg for -" ++ String.singleton c ++ " option")
      | [], a :: rest =>
        let (options, operands) ← takeOptions letters fuel [] rest
        return ((c, a) :: options, operands)
      | cs, args =>
        let (options, operands) ← takeOptions letters fuel [] args
        return ((c, String.ofList cs) :: options, operands)
  | _, [], [] => return ([], [])
  | fuel + 1, [], a :: rest =>
    match a.toList with
    | ['-', '-'] => return ([], rest)
    | '-' :: c :: cs => takeOptions letters fuel (c :: cs) rest
    | _ => return ([], a :: rest)

/-- Splits the options in front of some arguments from what follows them. A colon
    follows each letter that takes an argument. -/
def splitOptions (letters : String) (args : List String) :
    Run (List (Char × String) × List String) :=
  takeOptions letters.toList ((args.map fun a => a.length + 1).foldl (· + ·) 1) [] args

/-- Whether a letter is among options. -/
def has (options : List (Char × String)) (c : Char) : Bool := (options.lookup c).isSome

/-- The name and the value in an argument that assigns. -/
def splitAssignment (s : String) : String × Option String :=
  let name := s.toList.takeWhile (· ≠ '=')
  match s.toList.drop name.length with
  | [] => (s, none)
  | _ :: value => (String.ofList name, some (String.ofList value))

/-- The runs of quotes in a text, and what stands between them. -/
def quoteRuns : List Char → List (Bool × List Char)
  | [] => []
  | c :: cs =>
    match quoteRuns cs with
    | (isQuote, run) :: rest =>
      if isQuote = (c == '\'') then (isQuote, c :: run) :: rest
      else (c == '\'', [c]) :: (isQuote, run) :: rest
    | [] => [(c == '\'', [c])]

/-- A text between quotes, from which a shell reads it back. Quotes inside stand
    between double quotes. -/
def quoted (s : String) : String :=
  let runs := quoteRuns s.toList
  let text := runs.map fun (isQuote, run) =>
    if isQuote then "\"" ++ String.ofList run ++ "\"" else "'" ++ String.ofList run ++ "'"
  if s.isEmpty ∨ s.startsWith "'" then "''" ++ String.join text else String.join text

end SimSweep.Shell.Builtin
