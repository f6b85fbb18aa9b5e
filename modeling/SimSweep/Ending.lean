/-! # How an invocation ends

    A child process exits with a status or is killed by a signal, unless it could
    not be started at all. The system reports the end of a process as one word,
    which is taken apart here.
-/

namespace SimSweep

/-- The end of one invocation. -/
inductive Ending where
  /-- It exited with status zero. -/
  | success
  /-- It exited with another status. -/
  | failed (code : Int32)
  /-- It ended without exiting, by a signal if one is known. -/
  | terminated (signal : Option Int32)
  /-- The shell that should have run it did not start. -/
  | notStarted (reason : String)
  deriving DecidableEq

namespace Ending

/-- Whether the invocation succeeded. -/
def isSuccess : Ending → Bool
  | .success => true
  | _ => false

/-- A short label for tables and log lines. -/
def label : Ending → String
  | .success => "ok"
  | .failed code => "exit " ++ toString code.toInt
  | .terminated (some signal) => "signal " ++ toString signal.toInt
  | .terminated none => "terminated"
  | .notStarted _ => "launch failed"

/-! ## The word of the system -/

/-- The signal bits of a status word. -/
def signalBits (word : UInt32) : UInt32 := word &&& 0x7f

/-- The exit status in a status word. -/
def statusBits (word : UInt32) : UInt32 := (word >>> 8) &&& 0xff

/-- The ending that a status word reports. Only the zero word is success. Signal
    bits of zero mean an exit, all of them set mean a stop or a continuation, and
    any others name the signal. -/
def ofStatusWord (word : UInt32) : Ending :=
  if word = 0 then .success
  else if signalBits word = 0 then .failed (statusBits word).toInt32
  else if signalBits word = 0x7f then .terminated none
  else .terminated (some (signalBits word).toInt32)

end Ending

end SimSweep
