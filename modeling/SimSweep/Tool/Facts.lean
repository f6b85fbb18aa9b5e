import SimSweep.Time.Calendar
import SimSweep.Tool.Listing
import SimSweep.Tool.Running

/-! # Tools that tell facts

    Who is at work, on which system, where programs are, and what time it is.
-/

namespace SimSweep.Tool

open Kernel

/-! ## Section 1: The system and its users -/

/-- Refuses operands. -/
def noOperands (g : Given) : Deed Unit := do
  match g.operands with
  | [] => pure ()
  | a :: _ => misuse ("extra operand " ++ quote a)

/-- Tells facts about the system. -/
def uname : Deed Nat := do
  let facts : List (Char × String × String) :=
    [('s', "kernel-name", "Linux"), ('n', "nodename", "localhost"),
     ('r', "kernel-release", "6.1.0"), ('v', "kernel-version", "#1 SMP"),
     ('m', "machine", "x86_64"), ('o', "operating-system", "GNU/Linux")]
  let g ← options ((facts.map fun (letter, name, _) => ({ letter, name } : Choice)) ++
    [{ letter := 'a', name := "all" }, { letter := 'p', name := "processor" },
     { letter := 'i', name := "hardware-platform" }])
  noOperands g
  let shown := facts.filter fun (c, _, _) => g.has c || g.has 'a'
  let texts := shown.map fun (_, _, s) => s
  let unknown := (if g.has 'p' then ["unknown"] else []) ++ if g.has 'i' then ["unknown"] else []
  let texts := texts ++ unknown
  put (" ".intercalate (if texts.isEmpty then ["Linux"] else texts) ++ "\n")
  return 0

/-- Tells the kind of machine. -/
def arch : Deed Nat := do
  noOperands (← options [])
  put "x86_64\n"
  return 0

/-- Tells the name of the system. -/
def hostname : Deed Nat := do
  let _ ← options (flags "sfid") 255
  put "localhost\n"
  return 0

/-- Tells who is at work. -/
def whoami : Deed Nat := do
  noOperands (← options [])
  put "root\n"
  return 0

/-- Tells the numbers of who is at work. -/
def id_ : Deed Nat := do
  let g ← options
    [{ letter := 'u', name := "user" }, { letter := 'g', name := "group" },
     { letter := 'G', name := "groups" }, { letter := 'n', name := "name" },
     { letter := 'r', name := "real" }, { letter := 'z', name := "zero" }, { letter := 'a' }]
  match g.operands.find? (· ≠ "root") with
  | some name => abort (quote name ++ ": no such user")
  | none => pure ()
  let only := g.options.filter fun (c, _) => c == 'u' || c == 'g' || c == 'G'
  if only.isEmpty then
    if g.has 'n' then abort "cannot print only names or real IDs in default format"
    put "uid=0(root) gid=0(root) groups=0(root)\n"
  else
    if 1 < only.length then abort "cannot print \"only\" of more than one choice"
    put (if g.has 'n' then "root\n" else "0\n")
  return 0

/-- Tells the groups of who is at work. -/
def groups : Deed Nat := do
  let _ ← options []
  put "root\n"
  return 0

/-- Tells how many processors there are. -/
def nproc : Deed Nat := do
  let _ ← options [{ letter := '\x01', name := "all" },
    { letter := '\x02', name := "ignore", takes := .value }]
  put "4\n"
  return 0

/-- Tells which terminal the input is. -/
def tty : Deed Nat := do
  let g ← takeOptions [{ letter := 's', name := "silent" }, { letter := 's', name := "quiet" }]
    (← read).args 2
  if ¬ g.has 's' then put "not a tty\n"
  return 1

/-- Tells where programs are. -/
def which : Deed Nat := do
  let call ← read
  let names := call.args.filter (· ≠ "-a")
  let results ← names.mapM fun name => do
    let found ← Work.look fun w => (placesOf call.environment name).find? fun path =>
      match w.find path with
      | .ok id => match w.files.node? id with
        | some node => !node.content.isDirectory && node.mode &&& 0o111 != 0
        | none => false
      | .error _ => false
    match found with
    | some path =>
      put (path ++ "\n")
      return true
    | none => return false
  return if ¬ names.isEmpty ∧ results.all id then 0 else 1

/-! ## Section 2: The time -/

/-- The names of days, from the first day of 1970 on. -/
def dayNames : List String :=
  ["Thursday", "Friday", "Saturday", "Sunday", "Monday", "Tuesday", "Wednesday"]

/-- The names of months. -/
def fullMonthNames : List String :=
  ["January", "February", "March", "April", "May", "June", "July", "August", "September",
   "October", "November", "December"]

/-- A moment, in microseconds, in a format. The number bounds the directives. -/
def timeText (moment : Int) : Nat → List Char → String
  | 0, _ => ""
  | _, [] => ""
  | fuel + 1, '%' :: c :: rest =>
    let seconds := moment.fdiv 1000000
    let days := seconds.fdiv 86400
    let d := Date.ofDays days
    let second := (seconds.fmod 86400).toNat
    let (hour, minute) := (second / 3600, second / 60 % 60)
    let year := d.year.toNat
    let weekday := (days.fmod 7).toNat
    let dayOfYear := (days - Date.toDays ⟨d.year, 1, 1⟩).toNat
    let two := zeroPadded 2
    let half := if hour % 12 = 0 then 12 else hour % 12
    let dayName := (dayNames[weekday]?).getD ""
    let monthName := (fullMonthNames[d.month - 1]?).getD ""
    let short (s : String) : String := String.ofList (s.toList.take 3)
    let again (s : String) : String := timeText moment fuel s.toList
    let fromSunday := (weekday + 4) % 7
    let fromMonday := (weekday + 3) % 7
    let (c, rest, isBare) := match c, rest with
      | '-', d :: more => (d, more, true)
      | c, more => (c, more, false)
    let numeral (width n : Nat) : String := if isBare then digits n else zeroPadded width n
    let body := match c with
      | '%' => "%"
      | 'n' => "\n"
      | 't' => "\t"
      | 'Y' => digits year
      | 'C' => two (year / 100)
      | 'y' => numeral 2 (year % 100)
      | 'm' => numeral 2 d.month
      | 'd' => numeral 2 d.day
      | 'e' => rightAligned 2 (digits d.day)
      | 'H' => numeral 2 hour
      | 'k' => rightAligned 2 (digits hour)
      | 'I' => numeral 2 half
      | 'l' => rightAligned 2 (digits half)
      | 'M' => numeral 2 minute
      | 'S' => numeral 2 (second % 60)
      | 'N' => zeroPadded 9 ((moment.fmod 1000000).toNat * 1000)
      | 's' => String.ofList (intText seconds)
      | 'p' => if hour < 12 then "AM" else "PM"
      | 'P' => if hour < 12 then "am" else "pm"
      | 'a' => short dayName
      | 'A' => dayName
      | 'b' | 'h' => short monthName
      | 'B' => monthName
      | 'j' => numeral 3 (dayOfYear + 1)
      | 'u' => digits (if fromSunday = 0 then 7 else fromSunday)
      | 'w' => digits fromSunday
      | 'U' => two ((dayOfYear + 7 - fromSunday) / 7)
      | 'W' => two ((dayOfYear + 7 - fromMonday) / 7)
      | 'Z' => "UTC"
      | 'z' => "+0000"
      | 'q' => digits ((d.month + 2) / 3)
      | 'D' | 'x' => again "%m/%d/%y"
      | 'F' => again "%Y-%m-%d"
      | 'T' | 'X' => again "%H:%M:%S"
      | 'R' => again "%H:%M"
      | 'r' => again "%I:%M:%S %p"
      | 'c' => again "%a %b %e %H:%M:%S %Y"
      | ':' => if rest.head? = some 'z' then "+00:00" else "%:"
      | c => "%" ++ String.singleton c
    let rest := if c = ':' ∧ rest.head? = some 'z' then rest.drop 1 else rest
    body ++ timeText moment fuel rest
  | fuel + 1, c :: rest => String.singleton c ++ timeText moment fuel rest

/-- The moment that a text denotes, in microseconds. -/
def momentOf? (now : Int) (s : String) : Option Int :=
  match s.toList with
  | '@' :: cs =>
    let (isBelow, ds) := Decimal.sign cs
    if ds.isEmpty ∨ ¬ ds.all Char.isDigit then none
    else
      let n : Int := Decimal.valueOf ds
      some ((if isBelow then -n else n) * 1000000)
  | _ =>
    let words := (s.splitToList fun c => c == ' ' || c == 'T').filter fun w => !w.isEmpty
    let words := words.map fun w => if w.endsWith "Z" then String.ofList w.toList.dropLast else w
    let words := words.filter fun w => w != "UTC" && !w.isEmpty
    match words with
    | [] => some (now.fdiv 86400000000 * 86400000000)
    | ["now"] => some now
    | ["today"] => some now
    | ["yesterday"] => some (now - 86400000000)
    | ["tomorrow"] => some (now + 86400000000)
    | [day] => (dayOf? day).map (· * 86400000000)
    | [day, time] => do
      let days ← dayOf? day
      let seconds ← secondsOf? time
      return (days * 86400 + seconds) * 1000000
    | _ => none
where
  /-- The day of a date, counted from 1970 on. -/
  dayOf? (s : String) : Option Int := do
    match s.splitOn "-" with
    | [y, m, d] =>
      let date : Date := ⟨← (y.toNat?).map Int.ofNat, ← m.toNat?, ← d.toNat?⟩
      if date.isValid then return date.toDays else none
    | _ => none
  /-- The second of a day. -/
  secondsOf? (s : String) : Option Int := do
    match s.splitOn ":" with
    | [h, m] => return 3600 * (← h.toNat?) + 60 * (← m.toNat?)
    | [h, m, sec] => return 3600 * (← h.toNat?) + 60 * (← m.toNat?) + (← sec.toNat?)
    | _ => none

/-- Tells the time. -/
def date : Deed Nat := do
  let g ← options
    [{ letter := 'u', name := "utc" }, { letter := 'u', name := "universal" },
     { letter := 'd', name := "date", takes := .value },
     { letter := 'I', name := "iso-8601", takes := .maybe },
     { letter := 'R', name := "rfc-email" }, { letter := 's', name := "set", takes := .value },
     { letter := 'r', name := "reference", takes := .value }]
  let now ← Work.look (·.now)
  let moment ← match g.value? 'd' with
    | none => pure now
    | some s => match momentOf? now s with
      | some m => pure m
      | none => abort ("invalid date " ++ quote s)
  let usual :=
    if g.has 'R' then "%a, %d %b %Y %H:%M:%S %z"
    else match g.value? 'I' with
      | some "" | some "date" => "%F"
      | some "hours" => "%FT%H%:z"
      | some "minutes" => "%FT%H:%M%:z"
      | some _ => "%FT%T%:z"
      | none => "%a %b %e %H:%M:%S UTC %Y"
  match g.operands with
  | [] => put (timeText moment 10000 usual.toList ++ "\n")
  | [a] =>
    match a.toList with
    | '+' :: format => put (timeText moment (format.length + 100) format ++ "\n")
    | _ => abort ("invalid date " ++ quote a)
  | _ :: b :: _ => misuse ("extra operand " ++ quote b)
  return 0

end SimSweep.Tool
