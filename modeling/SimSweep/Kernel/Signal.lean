import SimSweep.Number.Reading

/-! # Signals

    The signals that a process can be sent: their numbers and names, what is said
    of a process that one has ended, and what each does to a process that does not
    handle it.
-/

namespace SimSweep.Kernel

/-- What a signal does to a process that does not handle it. -/
inductive Effect where
  | ends
  | stops
  | resumes
  | none
  deriving DecidableEq

/-- A signal. -/
structure Signal where
  number : Nat
  name : String
  /-- What is said of a process that it has ended. -/
  description : String
  effect : Effect := .ends
  deriving DecidableEq

namespace Signal

/-- The signals that have names. -/
def all : List Signal :=
  [{ number := 1, name := "HUP", description := "Hangup" },
   { number := 2, name := "INT", description := "Interrupt" },
   { number := 3, name := "QUIT", description := "Quit" },
   { number := 4, name := "ILL", description := "Illegal instruction" },
   { number := 5, name := "TRAP", description := "Trace/breakpoint trap" },
   { number := 6, name := "ABRT", description := "Aborted" },
   { number := 7, name := "BUS", description := "Bus error" },
   { number := 8, name := "FPE", description := "Floating point exception" },
   { number := 9, name := "KILL", description := "Killed" },
   { number := 10, name := "USR1", description := "User defined signal 1" },
   { number := 11, name := "SEGV", description := "Segmentation fault" },
   { number := 12, name := "USR2", description := "User defined signal 2" },
   { number := 13, name := "PIPE", description := "Broken pipe" },
   { number := 14, name := "ALRM", description := "Alarm clock" },
   { number := 15, name := "TERM", description := "Terminated" },
   { number := 16, name := "16", description := "Stack fault" },
   { number := 17, name := "CHLD", description := "Child exited", effect := .none },
   { number := 18, name := "CONT", description := "Continued", effect := .resumes },
   { number := 19, name := "STOP", description := "Stopped (signal)", effect := .stops },
   { number := 20, name := "TSTP", description := "Stopped", effect := .stops },
   { number := 21, name := "TTIN", description := "Stopped (tty input)", effect := .stops },
   { number := 22, name := "TTOU", description := "Stopped (tty output)", effect := .stops },
   { number := 23, name := "URG", description := "Urgent I/O condition", effect := .none },
   { number := 24, name := "XCPU", description := "CPU time limit exceeded" },
   { number := 25, name := "XFSZ", description := "File size limit exceeded" },
   { number := 26, name := "VTALRM", description := "Virtual timer expired" },
   { number := 27, name := "PROF", description := "Profiling timer expired" },
   { number := 28, name := "WINCH", description := "Window changed", effect := .none },
   { number := 29, name := "IO", description := "I/O possible" },
   { number := 30, name := "PWR", description := "Power failure" },
   { number := 31, name := "SYS", description := "Bad system call" },
   { number := 32, name := "32", description := "Unknown signal 32" },
   { number := 33, name := "33", description := "Unknown signal 33" }]

/-- The signals without a name of their own. They are counted from the first up to
    the middle, and from the last down to it. -/
def realTime (number : Nat) : Signal where
  number := number
  name :=
    if number = 34 then "RTMIN"
    else if number = 64 then "RTMAX"
    else if number < 50 then "RTMIN+" ++ String.ofList (Decimal.digitsOf (number - 34))
    else "RTMAX-" ++ String.ofList (Decimal.digitsOf (64 - number))
  description := "Real-time signal " ++ String.ofList (Decimal.digitsOf (number - 34))

/-- The signal of a number. -/
def ofNumber? (n : Nat) : Option Signal :=
  if 34 ≤ n ∧ n ≤ 64 then some (realTime n) else all.find? fun s => s.number == n

/-- The signal of a name in any case, or of a number. -/
def ofText? (s : String) : Option Signal :=
  let upper := String.ofList (s.toList.map Char.toUpper)
  if !s.isEmpty && s.toList.all Char.isDigit then ofNumber? (Decimal.valueOf s.toList)
  else (all ++ (List.range 31).map fun n => realTime (34 + n)).find? fun signal =>
    signal.name == upper

/-- Whether a shell says that a child was ended by the signal: an interrupt and a
    broken pipe are passed over in silence. -/
def isReported (s : Signal) : Bool := s.number != 2 && s.number != 13

/-- The status that stands for an end by the signal. -/
def status (s : Signal) : Nat := 128 + s.number

end Signal

end SimSweep.Kernel
