/-!
# Errors of system calls

Why a call to the system fails, with its number and its wording.
-/

namespace Enquiry.Host

inductive Errno where
  | notPermitted | noEntry | noProcess | interrupted | inputOutput | tooBig | execFormat
  | badDescriptor | noChild | accessDenied | alreadyThere | crossDevice | notDirectory | isDirectory
  | invalid | tooManyFiles | notTerminal | noSpace | illegalSeek | readOnly | brokenPipe
  | nameTooLong | notEmpty | linkLoop
  deriving DecidableEq, Repr

namespace Errno

def number : Errno → Nat
  | notPermitted => 1
  | noEntry => 2
  | noProcess => 3
  | interrupted => 4
  | inputOutput => 5
  | tooBig => 7
  | execFormat => 8
  | badDescriptor => 9
  | noChild => 10
  | accessDenied => 13
  | alreadyThere => 17
  | crossDevice => 18
  | notDirectory => 20
  | isDirectory => 21
  | invalid => 22
  | tooManyFiles => 24
  | notTerminal => 25
  | noSpace => 28
  | illegalSeek => 29
  | readOnly => 30
  | brokenPipe => 32
  | nameTooLong => 36
  | notEmpty => 39
  | linkLoop => 40

def message : Errno → String
  | notPermitted => "Operation not permitted"
  | noEntry => "No such file or directory"
  | noProcess => "No such process"
  | interrupted => "Interrupted system call"
  | inputOutput => "Input/output error"
  | tooBig => "Argument list too long"
  | execFormat => "Exec format error"
  | badDescriptor => "Bad file descriptor"
  | noChild => "No child processes"
  | accessDenied => "Permission denied"
  | alreadyThere => "File exists"
  | crossDevice => "Invalid cross-device link"
  | notDirectory => "Not a directory"
  | isDirectory => "Is a directory"
  | invalid => "Invalid argument"
  | tooManyFiles => "Too many open files"
  | notTerminal => "Inappropriate ioctl for device"
  | noSpace => "No space left on device"
  | illegalSeek => "Illegal seek"
  | readOnly => "Read-only file system"
  | brokenPipe => "Broken pipe"
  | nameTooLong => "File name too long"
  | notEmpty => "Directory not empty"
  | linkLoop => "Too many levels of symbolic links"

end Errno

end Enquiry.Host
