import Rpn.Job.Compile

/-! The program: a job on the arguments of the command line, carried out on the files and streams
of the system.  Shell commands are not started from here. -/

namespace Rpn

def Stream.handle : Stream → IO IO.FS.Stream
  | .output => IO.getStdout
  | .errors => IO.getStderr

def fileName (name : Bytes) : IO String :=
  match String.fromUTF8? name.untilNul.toByteArray with
  | some text => return text
  | none => throw (IO.userError "not a file name")

def succeeds (attempt : IO Unit) : IO Bool := do
  try
    attempt
    return true
  catch _ => return false

def Job.perform {α : Type} : Job α → IO α
  | done result => return result
  | print stream text next => do
      (← stream.handle).write text.toByteArray
      next.perform
  | flush next => do
      (← IO.getStdout).flush
      next.perform
  | openFile name next => do
      let opened ← succeeds do
        let _ ← IO.FS.Handle.mk (← fileName name) .write
      (next opened).perform
  | writeFile name content next => do
      let written ← succeeds do
        IO.FS.writeBinFile (← fileName name) content.toByteArray
      (next written).perform
  | removeFile name next => do
      let removed ← succeeds do
        IO.FS.removeFile (← fileName name)
      (next removed).perform
  | command _ next => (next .notStarted).perform

end Rpn

def main (arguments : List String) : IO UInt32 := do
  let code ← (Rpn.Job.ofArguments (arguments.map (·.toUTF8.toList))).perform
  return code.toNat.toUInt32
