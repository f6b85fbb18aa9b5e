import SimSweep.Kernel.Work

/-! # Programs

    What a program is given when it is run in a process, and what runs programs.
-/

namespace SimSweep.Kernel

/-- A program that is to be run, with what it is given. -/
structure Call where
  /-- Where the program is. -/
  path : String
  /-- The name under which it is called. -/
  name : String
  args : List String
  environment : List (String × String)

/-- What runs a program in the present process. Its status is the result, unless it
    cannot be run; then the process goes on as it was. -/
abbrev Host := Call → Work (Except Fault Nat)

end SimSweep.Kernel
