import SimSweep.Shell.Condition
import SimSweep.Shell.Format
import SimSweep.Tool.Options

/-! # Plain tools

    Succeeding and failing, printing arguments, and testing conditions, as programs of
    their own.
-/

namespace SimSweep.Tool

open Kernel Shell

/-- The options of `echo`: whether it ends the line, whether it knows escapes, and the
    words behind them. -/
def echoOptions (endsLine escapes : Bool) : List String → Bool × Bool × List String
  | [] => (endsLine, escapes, [])
  | a :: rest =>
    match a.toList with
    | '-' :: c :: cs =>
      if (c :: cs).all "neE".toList.contains then
        let last := (c :: cs).reverse.find? fun d => d == 'e' || d == 'E'
        echoOptions (endsLine && !(c :: cs).contains 'n') (last.elim escapes (· == 'e')) rest
      else (endsLine, escapes, a :: rest)
    | _ => (endsLine, escapes, a :: rest)

/-- Prints its arguments. -/
def echo : Deed Nat := do
  let (endsLine, escapes, words) := echoOptions true false (← read).args
  let s := " ".intercalate words
  let (cs, ends) := if escapes then Format.argument s else (s.toList, false)
  put (String.ofList (if endsLine ∧ ¬ ends then cs ++ ['\n'] else cs))
  return 0

/-- Prints its arguments in a format. -/
def printf : Deed Nat := do
  match (← read).args.filter (· != "--") with
  | [] => misuse "missing operand"
  | format :: args =>
    let p := Format.print .plain format args
    put (String.ofList p.bytes)
    p.complaints.forM fun c => complain (c.message .plain)
    return if p.status = 0 then 0 else 1

/-- Tests a condition; in brackets if it was called by one. -/
def test (isBracket : Bool) : Deed Nat := do
  let args := (← read).args
  if isBracket ∧ args.getLast? ≠ some "]" then
    complain "missing ']'"
    stop 2
  match ← Work.look fun w => Condition.holds w (if isBracket then args.dropLast else args) with
  | .ok b => return if b then 0 else 1
  | .error f =>
    complain f.message
    return 2

/-- Sends signals to processes. -/
def kill : Deed Nat := do
  let args := (← read).args
  let send (signal : Signal) (targets : List String) : Deed Nat := do
    let results ← targets.mapM fun target => do
      if target.toList.all Char.isDigit ∧ ¬ target.isEmpty then
        let id := Decimal.valueOf target.toList
        if ← Work.look fun w => (w.process? id).isSome then
          if signal.number ≠ 0 then Work.signal id signal
          return true
        else
          complain ("(" ++ target ++ ") - No such process")
          return false
      else
        complain ("failed to parse argument: '" ++ target ++ "'")
        return false
    return if results.all id then 0 else 1
  let none_ : Signal := { number := 0, name := "0", description := "" }
  let named (s : String) : Option Signal :=
    let upper := s.map Char.toUpper
    if s = "0" then some none_
    else Signal.ofText?
      (if upper.startsWith "SIG" then String.ofList (upper.toList.drop 3) else upper)
  let usual := (Signal.ofNumber? 15).getD none_
  match args with
  | "-s" :: name :: targets | "-n" :: name :: targets =>
    match named name with
    | some signal => send signal targets
    | none => abort ("unknown signal " ++ name)
  | a :: targets =>
    match a.toList with
    | ['-', '-'] => send usual targets
    | '-' :: cs =>
      match named (String.ofList cs) with
      | some signal => send signal targets
      | none => abort ("unknown signal " ++ String.ofList cs)
    | _ => send usual args
  | [] => abort "not enough arguments"

end SimSweep.Tool
