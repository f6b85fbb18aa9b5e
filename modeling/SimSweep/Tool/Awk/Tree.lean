import SimSweep.Tool.Regex

/-! # Programs for records

    A program is a list of rules, each with a pattern that chooses records and a list of
    statements that is run for them, and of functions that the statements may call.
-/

namespace SimSweep.Tool.Awk

/-- Operations on two numbers, and comparisons. -/
inductive Operation where
  | add
  | sub
  | mul
  | div
  | mod
  | pow
  | less
  | atMost
  | equal
  | unequal
  | greater
  | atLeast
  deriving DecidableEq

mutual

/-- An expression. -/
inductive Expr where
  | number (x : Float)
  | text (s : String)
  /-- Whether a regular expression fits the record. -/
  | regex (r : Regex)
  | name (n : String)
  | element (array : String) (keys : List Expr)
  | field (number : Expr)
  | group (e : Expr)
  | not (e : Expr)
  | negate (e : Expr)
  | plus (e : Expr)
  | binary (op : Operation) (a b : Expr)
  | concat (a b : Expr)
  | and (a b : Expr)
  | or (a b : Expr)
  | fits (isNegated : Bool) (a b : Expr)
  | isIn (keys : List Expr) (array : String)
  | choose (condition a b : Expr)
  | assign (target : Expr) (op : Option Operation) (value : Expr)
  /-- Adds one, or takes one away; the value is the one before or behind that. -/
  | count (target : Expr) (isUp isBefore : Bool)
  | call (function : String) (args : List Expr)
  | builtin (name : String) (args : List Expr)
  | getline (target : Option Expr) (source : Source)

/-- Where a line is taken from. -/
inductive Source where
  | input
  | file (name : Expr)
  | command (text : Expr)

end

/-- Where output goes. -/
inductive Outlet where
  | file
  | fileEnd
  | command
  deriving DecidableEq

/-- A statement. -/
inductive Statement where
  | eval (e : Expr)
  | print (args : List Expr) (outlet : Option (Outlet × Expr))
  | printf (args : List Expr) (outlet : Option (Outlet × Expr))
  | ifElse (condition : Expr) (a b : List Statement)
  | loop (condition : Option Expr) (step : List Statement) (body : List Statement)
  | loopOnce (body : List Statement) (condition : Expr)
  | forKeys (key array : String) (body : List Statement)
  | next
  | nextFile
  | exit (status : Option Expr)
  | result (value : Option Expr)
  | break
  | continue
  | delete (array : String) (keys : List Expr)

/-- What chooses records. -/
inductive Pattern where
  | start
  | end
  | always
  | test (e : Expr)
  | range (first last : Expr)

/-- A function. -/
structure Function where
  name : String
  parameters : List String
  body : List Statement

/-- A program. -/
structure Program where
  rules : List (Pattern × List Statement) := []
  functions : List Function := []

end SimSweep.Tool.Awk
