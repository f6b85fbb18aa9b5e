/-! # Faults of system calls

    Why a call to the system fails: the number of the fault and its wording.
-/

namespace SimSweep.Kernel

/-- Why a call to the system fails. -/
inductive Fault where
  | notPermitted
  | notFound
  | noProcess
  | interrupted
  | ioError
  | noSuchDevice
  | listTooLong
  | notExecutable
  | badDescriptor
  | noChild
  | denied
  | alreadyThere
  | crossDevice
  | notDirectory
  | isDirectory
  | invalid
  | textBusy
  | noSpace
  | illegalSeek
  | readOnly
  | brokenPipe
  | nameTooLong
  | notEmpty
  | tooManyLinks
  deriving DecidableEq

/-- The number of a fault. -/
def Fault.number : Fault → Nat
  | .notPermitted => 1
  | .notFound => 2
  | .noProcess => 3
  | .interrupted => 4
  | .ioError => 5
  | .noSuchDevice => 6
  | .listTooLong => 7
  | .notExecutable => 8
  | .badDescriptor => 9
  | .noChild => 10
  | .denied => 13
  | .alreadyThere => 17
  | .crossDevice => 18
  | .notDirectory => 20
  | .isDirectory => 21
  | .invalid => 22
  | .textBusy => 26
  | .noSpace => 28
  | .illegalSeek => 29
  | .readOnly => 30
  | .brokenPipe => 32
  | .nameTooLong => 36
  | .notEmpty => 39
  | .tooManyLinks => 40

/-- The wording of a fault. -/
def Fault.message : Fault → String
  | .notPermitted => "Operation not permitted"
  | .notFound => "No such file or directory"
  | .noProcess => "No such process"
  | .interrupted => "Interrupted system call"
  | .ioError => "Input/output error"
  | .noSuchDevice => "No such device or address"
  | .listTooLong => "Argument list too long"
  | .notExecutable => "Exec format error"
  | .badDescriptor => "Bad file descriptor"
  | .noChild => "No child processes"
  | .denied => "Permission denied"
  | .alreadyThere => "File exists"
  | .crossDevice => "Invalid cross-device link"
  | .notDirectory => "Not a directory"
  | .isDirectory => "Is a directory"
  | .invalid => "Invalid argument"
  | .textBusy => "Text file busy"
  | .noSpace => "No space left on device"
  | .illegalSeek => "Illegal seek"
  | .readOnly => "Read-only file system"
  | .brokenPipe => "Broken pipe"
  | .nameTooLong => "File name too long"
  | .notEmpty => "Directory not empty"
  | .tooManyLinks => "Too many levels of symbolic links"

end SimSweep.Kernel
