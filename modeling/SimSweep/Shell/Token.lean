import SimSweep.Shell.Tree

/-! # Tokens of a shell

    What the grammar of a shell is made of, and the marks of which a word consists
    before they are put together to a tree.
-/

namespace SimSweep.Shell

/-- What the grammar is made of. A word becomes a reserved one where the grammar looks
    for reserved words. -/
inductive Token where
  | finish
  | newline
  | operator (text : String)
  | reserved (text : String)
  | redirection (descriptor : Option Nat) (text : String)
  | word (term : Term) (isQuoted : Bool)

/-- The words that have a meaning of their own where a command may start. -/
def reservedWords : Dialect → List String
  | .plain =>
    ["!", "case", "do", "done", "elif", "else", "esac", "fi", "for", "if", "in", "then", "until",
     "while", "\x7b", "\x7d"]
  | .rich =>
    ["!", "[[", "case", "do", "done", "elif", "else", "esac", "fi", "for", "function", "if",
     "in", "then", "time", "until", "while", "\x7b", "\x7d"]

/-- The names that no function may have. -/
def specialNames : List String :=
  [":", ".", "break", "continue", "eval", "exec", "exit", "export", "local", "readonly", "return",
   "set", "shift", "times", "trap", "unset"]

/-- The names of the commands that take lists as arguments. -/
def declaringNames : List String := ["declare", "export", "local", "readonly", "typeset"]

/-- The operators on one word in a condition between brackets. -/
def testOperators : List String :=
  ["-a", "-b", "-c", "-d", "-e", "-f", "-g", "-h", "-k", "-n", "-o", "-p", "-r", "-s", "-t", "-u",
   "-v", "-w", "-x", "-z", "-G", "-L", "-N", "-O", "-R", "-S"]

/-- The operators on two words in a condition between brackets, apart from patterns. -/
def testRelations : List String :=
  ["-eq", "-ne", "-lt", "-le", "-gt", "-ge", "-nt", "-ot", "-ef"]

/-- A text between double quotes. -/
def doubleQuoted (s : String) : String := "\"" ++ s ++ "\""

/-- The text of a word without its quotes. -/
def bareText (t : Term) : List Char :=
  t.flatMap fun
    | .text cs _ => cs
    | _ => []

namespace Token

/-- How a token is named in a complaint. -/
def title : Token → String
  | .finish => "end of file"
  | .newline => "newline"
  | .operator s | .reserved s => doubleQuoted s
  | .redirection _ _ => "redirection"
  | .word _ _ => "word"

/-- The characters of a token without quotes. -/
def sign : Token → String
  | .finish => "end of file"
  | .newline => "newline"
  | .operator s | .reserved s | .redirection _ s => s
  | .word term _ => String.ofList (bareText term)

/-- Whether a list of commands that is part of another command ends in front of the
    token. -/
def endsList : Token → Bool
  | .finish => true
  | .operator s => s == ")" || s == ";;" || s == ";&" || s == ";;&"
  | .reserved s => ["\x7d", "do", "done", "elif", "else", "esac", "fi", "then"].contains s
  | _ => false

/-- The text of a word without quotes and anything to be put in its place. -/
def plain? : Token → Option String
  | .word term false => (plainText? term).map String.ofList
  | _ => none

end Token

/-! ## Section 1: Marks -/

/-- A mark in a word: a character, or an end of something. -/
inductive Mark where
  | char (c : Char) (isEscaped : Bool)
  /-- Quotes are opened or closed. -/
  | quote
  /-- A parameter, up to the end mark unless only its value is taken. -/
  | parameter (name : String) (subscript : Option (List Part)) (form : List Part → Operation)
      (isOpen : Bool) (isTrim : Bool)
  | parameterEnd
  | substitution (script : Script)
  /-- A part that is read as a whole. -/
  | whole (part : Part)
  | arithmetic
  | arithmeticEnd

namespace Mark

/-- Puts a character in front of parts. -/
def addChar (c : Char) (quoted : Bool) : List Part → List Part
  | .text (d :: cs) q :: rest =>
    if q == quoted then .text (c :: d :: cs) q :: rest
    else .text [c] quoted :: .text (d :: cs) q :: rest
  | rest => .text [c] quoted :: rest

/-- The parts of a word, up to an end mark that was not opened, and what follows. All of
    it may be quoted, or only this place. The number bounds the marks. -/
def group : Nat → Bool → Bool → List Mark → List Part × List Mark
  | 0, _, _, marks => ([], marks)
  | _, _, _, [] => ([], [])
  | fuel + 1, isQuoted, inQuotes, mark :: rest =>
    let quoted := isQuoted || inQuotes
    match mark with
    | .char c escaped =>
      let (parts, after) := group fuel isQuoted inQuotes rest
      (addChar c (quoted || escaped) parts, after)
    | .quote =>
      match inQuotes, rest with
      | false, .parameter "@" none form false isTrim :: .quote :: more =>
        let (parts, after) := group fuel isQuoted false more
        (if isTrim then parts else .parameter "@" none (form []) true :: parts, after)
      | _, _ =>
        let (parts, after) := group fuel isQuoted (!inQuotes) rest
        (.text [] true :: parts, after)
    | .parameter name subscript form isOpen isTrim =>
      if isOpen then
        let (word, more) := group fuel (quoted && !isTrim) false rest
        let (parts, after) := group fuel isQuoted inQuotes more
        (.parameter name subscript (form word) quoted :: parts, after)
      else
        let (parts, after) := group fuel isQuoted inQuotes rest
        (.parameter name subscript (form []) quoted :: parts, after)
    | .whole part =>
      let (parts, after) := group fuel isQuoted inQuotes rest
      (part :: parts, after)
    | .substitution script =>
      let (parts, after) := group fuel isQuoted inQuotes rest
      (.substitution script quoted :: parts, after)
    | .arithmetic =>
      let (expression, more) := group fuel true false rest
      let (parts, after) := group fuel isQuoted inQuotes more
      (.arithmetic expression quoted :: parts, after)
    | .parameterEnd | .arithmeticEnd => ([], rest)

/-- The word that marks make. -/
def term (isQuoted : Bool) (marks : List Mark) : Term :=
  (group (marks.length + 1) isQuoted false marks).1

end Mark

end SimSweep.Shell
