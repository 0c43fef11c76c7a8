import Rpn.Host.System

/-! Programs that the system brings: what they print is collected and written out at the end or when
there is much of it, and messages appear at once.  Only serves the test environment. -/

namespace Rpn.Tool

open Host

/-- `name` is the name by which the tool was called. -/
structure State where
  name : Bytes
  system : System
  output : ByteArray := .empty
  status : Nat := 0
  broken : Option Fault := none

abbrev Run := Task State Nat

abbrev Main := List Bytes → Run Nat

namespace Run

def bufferSize : Nat := 4096

def flush : Run Unit := do
  let state ← get
  if state.output.size = 0 then return ()
  else
    set { state with output := .empty }
    match ← Act.write 1 state.output.toList with
    | .ok () => return ()
    | .error fault => modify fun state => { state with broken := some fault }

def say (text : Bytes) : Run Unit := do
  modify fun { name, system, output, status, broken } =>
    { name, system, output := text.foldl .push output, status, broken }
  if bufferSize ≤ (← get).output.size then flush

def sayLine (text : Bytes) : Run Unit :=
  say (Bytes.line text)

def note (text : Bytes) : Run Unit := do
  let _ ← Act.write 2 text

def complain (text : Bytes) : Run Unit := do
  note (Bytes.line ((← get).name ++ ascii ": " ++ text))

def setStatus (status : Nat) : Run Unit :=
  modify fun state => { state with status := max state.status status }

def worry (text : Bytes) (status : Nat := 1) : Run Unit := do
  complain text
  setStatus status

def fail {α : Type} (text : Bytes) (status : Nat := 1) : Run α := do
  complain text
  throw status

def failWithHint {α : Type} (text : Bytes) (status : Nat := 1) : Run α := do
  complain text
  note (Bytes.line (ascii "Try '" ++ (← get).name ++ ascii " --help' for more information."))
  throw status

def status : Run Nat :=
  return (← get).status

def environment? (name : String) : Run (Option Bytes) := do
  return System.valueIn? (← Act.process).environment (ascii name)

end Run

/-- A tool as a program.  What was collected is written at the end, and it is a failure if that
cannot be done. -/
def toProgram (main : Main) (system : System) (arguments : List Bytes) : Host.Program :=
  let name := arguments.headD []
  let finish : Run Unit := do
    Run.flush
    match (← get).broken with
    | none => return ()
    | some fault =>
        Run.complain (ascii "write error: " ++ fault.message)
        throw 1
  let whole : Run Unit := do
    let status ← (main arguments.tail).outcome
    let status := match status with
      | .ok status | .error status => status
    finish
    throw status
  whole.toProgram { name, system } fun ending _ =>
    match ending with
    | .ok () => .finish (.exited 0)
    | .error status => .finish (.exited (status % 256))

/-! Input. -/

def isStandard (name : Bytes) : Bool :=
  name == [Ascii.minus]

def openInput (name : Bytes) : Run (Except Fault Nat) := do
  if isStandard name then return .ok 0
  else Act.openPath name { read := true }

def readInput (name : Bytes) : Run (Except Fault Bytes) := do
  match ← openInput name with
  | .error fault => return .error fault
  | .ok number =>
      let content ← Act.readAll number
      if number ≠ 0 then Act.close number
      return content

/-- Read from a descriptor until there are enough bytes or no more follow.  `blocks` are those that
were read, in reverse.  The first number bounds how often is read. -/
def readBlocks (number : Nat) : Nat → Nat → List Bytes → Run (Except Fault Bytes)
  | 0, _, blocks => return .ok blocks.reverse.flatten
  | _, 0, blocks => return .ok blocks.reverse.flatten
  | bound + 1, wanted, blocks => do
      match ← Act.read number (min wanted Act.blockSize) with
      | .error fault => return .error fault
      | .ok [] => return .ok blocks.reverse.flatten
      | .ok block => readBlocks number bound (wanted - block.length) (block :: blocks)

def readInputUpTo (limit : Option Nat) (name : Bytes) : Run (Except Fault Bytes) := do
  match limit with
  | none => readInput name
  | some limit =>
      match ← openInput name with
      | .error fault => return .error fault
      | .ok number =>
          let content ← readBlocks number Act.unbounded limit []
          if number ≠ 0 then Act.close number
          return content

def splitLines (text : Bytes) : List Bytes :=
  let parts := text.splitOn Ascii.newline
  let last := parts.getLastD []
  parts.dropLast.map Bytes.line ++ (if last = [] then [] else [last])

def plainLines (text : Bytes) : List Bytes :=
  let parts := text.splitOn Ascii.newline
  if parts.getLast? = some [] then parts.dropLast else parts

end Rpn.Tool
