import Rpn.Bytes

/-! Why requests to the system fail.  Part of the test environment. -/

namespace Rpn.Host

inductive Fault where
  | missing
  | notFolder
  | isFolder
  | present
  | notEmpty
  | longName
  | manyLinks
  | denied
  | noSpace
  | badDescriptor
  | brokenPipe
  | invalid
  | notPermitted
  | noDevice
  | noProcess
  | noChild
  | notExecutable
  | notSeekable
  | interrupted
  | otherDevice
  deriving DecidableEq, Repr

def Fault.message : Fault → Bytes
  | missing => ascii "No such file or directory"
  | notFolder => ascii "Not a directory"
  | isFolder => ascii "Is a directory"
  | present => ascii "File exists"
  | notEmpty => ascii "Directory not empty"
  | longName => ascii "File name too long"
  | manyLinks => ascii "Too many levels of symbolic links"
  | denied => ascii "Permission denied"
  | noSpace => ascii "No space left on device"
  | badDescriptor => ascii "Bad file descriptor"
  | brokenPipe => ascii "Broken pipe"
  | invalid => ascii "Invalid argument"
  | notPermitted => ascii "Operation not permitted"
  | noDevice => ascii "No such device or address"
  | noProcess => ascii "No such process"
  | noChild => ascii "No child processes"
  | notExecutable => ascii "Exec format error"
  | notSeekable => ascii "Illegal seek"
  | interrupted => ascii "Interrupted system call"
  | otherDevice => ascii "Invalid cross-device link"

end Rpn.Host
