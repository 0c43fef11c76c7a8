import Rpn.Bytes

/-! Signals by number and name, and what they do to a process that does nothing about them.  Part of
the test environment. -/

namespace Rpn.Host.Signal

def hangup : Nat := 1
def interrupt : Nat := 2
def quit : Nat := 3
def kill : Nat := 9
def brokenPipe : Nat := 13
def terminate : Nat := 15
def child : Nat := 17
def resume : Nat := 18
def stop : Nat := 19

def names : List Bytes :=
  ["HUP", "INT", "QUIT", "ILL", "TRAP", "ABRT", "BUS", "FPE", "KILL", "USR1", "SEGV", "USR2",
    "PIPE", "ALRM", "TERM", "STKFLT", "CHLD", "CONT", "STOP", "TSTP", "TTIN", "TTOU", "URG",
    "XCPU", "XFSZ", "VTALRM", "PROF", "WINCH", "IO", "PWR", "SYS"].map ascii

def count : Nat := 64

/-- The name of a signal; those above 31 are named by their distance from the ends of their
range. -/
def name (signal : Nat) : Bytes :=
  match names[signal - 1]? with
  | some name => if signal = 0 then ascii "EXIT" else name
  | none =>
      if signal = 34 then ascii "RTMIN"
      else if signal = 64 then ascii "RTMAX"
      else if 34 < signal ∧ signal ≤ 49 then ascii "RTMIN+" ++ .ofNat (signal - 34)
      else if 49 < signal ∧ signal < 64 then ascii "RTMAX-" ++ .ofNat (64 - signal)
      else .ofNat signal

def otherNames : List (Bytes × Nat) :=
  [("IOT", 6), ("CLD", 17), ("POLL", 29)].map fun (text, number) => (ascii text, number)

def upper (byte : UInt8) : UInt8 :=
  if 97 ≤ byte && byte ≤ 122 then byte - 32 else byte

def ofName? (text : Bytes) : Option Nat :=
  let text := text.map upper
  match ((List.range 65).drop 1).find? fun signal => name signal = text with
  | some signal => some signal
  | none => otherNames.lookup text

inductive Effect where
  | terminate
  | ignore
  | stop
  | resume
  deriving DecidableEq, Repr

def effect (signal : Nat) : Effect :=
  if signal = resume then .resume
  else if [19, 20, 21, 22].contains signal then .stop
  else if [0, 17, 23, 28].contains signal then .ignore
  else .terminate

def note (signal : Nat) : Bytes :=
  let texts : List String :=
    ["Hangup", "Interrupt", "Quit", "Illegal instruction", "Trace/breakpoint trap", "Aborted",
      "Bus error", "Floating point exception", "Killed", "User defined signal 1",
      "Segmentation fault", "User defined signal 2", "Broken pipe", "Alarm clock", "Terminated",
      "Stack fault", "Child exited", "Continued", "Stopped (signal)", "Stopped",
      "Stopped (tty input)", "Stopped (tty output)", "Urgent I/O condition",
      "CPU time limit exceeded", "File size limit exceeded", "Virtual timer expired",
      "Profiling timer expired", "Window changed", "I/O possible", "Power failure",
      "Bad system call"]
  match texts[signal - 1]? with
  | some text => ascii text
  | none => ascii "Real-time signal " ++ .ofNat (signal - 34)

end Rpn.Host.Signal
