import Rpn.Tool.Awk.Machine

/-! What a program reads and prints.  Only serves the test environment. -/

namespace Rpn.Tool.Awk

open Host Text

namespace Exec

/-! Output. -/

def flushOutlet (outlet : Outlet) : Exec Unit := do
  if outlet.pending.size ≠ 0 then
    let _ ← Act.write outlet.number outlet.pending.toList

def flushAll : Exec Unit := do
  let outlets := (← get).outlets
  modify fun machine => { machine with
    outlets := machine.outlets.map fun outlet => { outlet with pending := .empty } }
  for outlet in outlets do flushOutlet outlet
  Run.flush

def ownDescriptors : Exec (List Nat) := do
  let machine ← get
  return machine.outlets.map (·.number) ++ machine.inputs.map (·.2.number) ++
    (machine.main.map (·.number)).toList.filter (· ≠ 0)

/-- Start a command with one end of a pipe as its input or output.  The answer is the other end and
the number of the process. -/
def startCommand (command : Bytes) (reads : Bool) : Exec (Nat × Nat) := do
  flushAll
  let own ← ownDescriptors
  let (input, output) ← Act.pipe
  let child ← commandProgram
    (do
      for number in own do Act.close number
      if reads then
        Act.close output
        Act.move input 0
      else
        Act.close input
        Act.move output 1)
    (shellCommand command) (·.message)
  let process ← Act.fork child
  if reads then
    Act.close input
    return (output, process)
  else
    Act.close output
    return (input, process)

def isStandardOutput (name : Bytes) : Bool :=
  name == ascii "/dev/stdout" || name == ascii "-"

def openOutlet (sink : Sink) (name : Bytes) : Exec Outlet := do
  match sink with
  | .command =>
      let (number, process) ← startCommand name true
      return { isCommand := true, name, number, child := some process }
  | sink =>
      let access : Access :=
        { write := true, create := true, truncate := sink = .file, append := sink = .append }
      match ← Act.openPath name access with
      | .ok number => return { isCommand := false, name, number }
      | .error fault =>
          throw (.failure (ascii "cannot open \"" ++ name ++ ascii "\" for output (" ++
            fault.message ++ ascii ")"))

def outletSize : Nat := 4096

def fill (outlet : Outlet) (text : Bytes) : Outlet :=
  { outlet with pending := text.foldl .push outlet.pending }

def isOutlet (sink : Sink) (name : Bytes) (outlet : Outlet) : Bool :=
  outlet.isCommand == (sink == .command) && outlet.name == name

def printTo (sink : Sink) (name text : Bytes) : Exec Unit := do
  if sink ≠ .command ∧ isStandardOutput name then Run.say text
  else if sink ≠ .command ∧ name = ascii "/dev/stderr" then
    let _ ← Act.write 2 text
  else
    if !(← get).outlets.any (isOutlet sink name) then
      let outlet ← openOutlet sink name
      modify fun machine => { machine with outlets := outlet :: machine.outlets }
    modify fun machine => { machine with
      outlets := machine.outlets.map fun outlet =>
        if isOutlet sink name outlet then fill outlet text else outlet }
    match (← get).outlets.find? (isOutlet sink name) with
    | some outlet =>
        if outletSize ≤ outlet.pending.size then
          modify fun machine => { machine with
            outlets := machine.outlets.map fun outlet =>
              if isOutlet sink name outlet then { outlet with pending := .empty } else outlet }
          flushOutlet outlet
    | none => return ()

def endingValue : Ending → Nat
  | .exited status => status
  | .killed signal => 256 + signal

def awaitChild (child : Option Nat) : Exec Nat := do
  match child with
  | some process =>
      match ← Act.wait process with
      | some ending => return endingValue ending
      | none => return 0
  | none => return 0

def closeOutlet (outlet : Outlet) : Exec Nat := do
  flushOutlet outlet
  Act.close outlet.number
  awaitChild outlet.child

def closeStream (stream : Stream) : Exec Nat := do
  if stream.number ≠ 0 then Act.close stream.number
  awaitChild stream.child

/-- Close what has a name.  There is an answer only if there is such a thing. -/
def closeNamed (name : Bytes) : Exec (Option Nat) := do
  let machine ← get
  let outlets := machine.outlets.filter (·.name == name)
  let inputs := machine.inputs.filter (·.1.2 == name)
  set { machine with
    outlets := machine.outlets.filter (·.name != name)
    inputs := machine.inputs.filter (·.1.2 != name) }
  let mut answer := none
  for outlet in outlets do
    answer := some (← closeOutlet outlet)
  for (_, stream) in inputs do
    answer := some (← closeStream stream)
  return answer

def closeAll : Exec Unit := do
  let outlets := (← get).outlets
  modify fun machine => { machine with outlets := [] }
  for outlet in outlets do
    if outlet.isCommand then let _ ← closeOutlet outlet
  for outlet in outlets do
    if !outlet.isCommand then let _ ← closeOutlet outlet

/-! Records. -/

def inputSize : Nat := 4096

def readBlock (stream : Stream) : Exec Stream := do
  match ← Act.read stream.number inputSize with
  | .ok [] => return { stream with ended := true }
  | .ok block => return { stream with pending := stream.pending ++ block }
  | .error fault => throw (.failure (ascii "read error (" ++ fault.message ++ ascii ")"))

inductive RecordEnd where
  | byte (value : UInt8)
  | paragraph
  | regex (matcher : Regex.Matcher)

def recordEnd : Exec RecordEnd := do
  match ← toText (← global "RS") with
  | [] => return .paragraph
  | [value] => return .byte value
  | text => return .regex (← matcherOf text)

def paragraphEnd? (length : Nat) : Bytes → Option (Nat × Nat)
  | [] => none
  | byte :: rest =>
      if byte = Ascii.newline ∧ rest.head? = some Ascii.newline then
        some (length, (byte :: rest).takeWhile (· == Ascii.newline) |>.length)
      else paragraphEnd? (length + 1) rest

def filledMatch? (matcher : Regex.Matcher) (text : ByteArray) : Nat → Nat → Option Regex.Match
  | 0, _ => none
  | bound + 1, start => do
      let found ← matcher.search text start
      if found.start = found.stop then
        if text.size ≤ found.start then none
        else filledMatch? matcher text bound (found.start + 1)
      else some found

/-- The length of the record at the front of a text and that of its end.  Without an answer more has
to be read. -/
def recordLength? (ending : RecordEnd) (ended : Bool) (text : Bytes) : Option (Nat × Nat) :=
  match ending with
  | .byte value =>
      let length := (text.takeWhile (· != value)).length
      if length < text.length then some (length, 1) else if ended then some (length, 0) else none
  | .paragraph =>
      match paragraphEnd? 0 text with
      | some (length, newlines) =>
          if ended ∨ length + newlines < text.length then some (length, newlines) else none
      | none =>
          if !ended then none
          else if text.getLast? = some Ascii.newline then some (text.length - 1, 1)
          else some (text.length, 0)
  | .regex matcher =>
      match filledMatch? matcher text.toByteArray (text.length + 1) 0 with
      | some found =>
          if ended ∨ found.stop < text.length then some (found.start, found.stop - found.start)
          else none
      | none => if ended then some (text.length, 0) else none

def takeRecord (ending : RecordEnd) : Nat → Stream → Exec (Option Bytes × Stream)
  | 0, stream => return (none, stream)
  | bound + 1, stream => do
      let text := match ending with
        | .paragraph => stream.pending.dropWhile (· == Ascii.newline)
        | _ => stream.pending
      if text = [] ∧ stream.ended then return (none, { stream with pending := [] })
      else if text = [] then takeRecord ending bound (← readBlock { stream with pending := [] })
      else
        match recordLength? ending stream.ended text with
        | some (length, skipped) =>
            pause
            return (some (text.take length), { stream with pending := text.drop (length + skipped) })
        | none => takeRecord ending bound (← readBlock { stream with pending := text })

def nextRecord (stream : Stream) : Exec (Option Bytes × Stream) := do
  takeRecord (← recordEnd) Act.unbounded stream

/-! The files of the command line. -/

def unescape (text : Bytes) : Bytes :=
  let quoted := text.flatMap fun byte =>
    if byte = Ascii.doubleQuote then [Ascii.backslash, byte] else [byte]
  match Token.unquote (2 * quoted.length + 2) (quoted ++ [Ascii.doubleQuote]) with
  | some (value, _) => value
  | none => text

def assignment? (text : Bytes) : Option (Bytes × Bytes) :=
  let name := text.takeWhile Token.isNameByte
  let rest := text.drop name.length
  if name.head?.any Token.isNameStart ∧ rest.head? = some Ascii.equals then
    some (name, rest.drop 1)
  else none

def assign (name text : Bytes) : Exec Unit :=
  setVariable name (.ofInput (unescape text))

/-- Open the next file, in order, and carry out the assignments before it.  The answer is whether
there is one. -/
def openNext : Nat → Exec Bool
  | 0 => return false
  | bound + 1 => do
      let machine ← get
      let count := (Value.truncate? (← global "ARGC").toNumber).getD 0
      if machine.position < count then
        let place := machine.position
        set { machine with position := place + 1 }
        let number ← tableNumber (ascii "ARGV")
        let text ← match (← table number).get? (.text (.ofNat place)) with
          | some value => toText value
          | none => pure []
        if text = [] then openNext bound
        else
          match assignment? text with
          | some (name, value) =>
              assign name value
              openNext bound
          | none =>
              openMain text
              return true
      else if machine.readAny then return false
      else
        openMain [Ascii.minus]
        return true
where
  openMain (name : Bytes) : Exec Unit := do
    let number ←
      if isStandard name ∨ name = ascii "/dev/stdin" then pure 0
      else
        match ← Act.openPath name { read := true } with
        | .ok number => pure number
        | .error fault =>
            throw (.failure (ascii "cannot open \"" ++ name ++ ascii "\" (" ++ fault.message ++
              ascii ")"))
    modify fun machine => { machine with main := some { number }, readAny := true }
    setGlobal (ascii "FILENAME") (.ofInput name)
    setGlobal (ascii "FNR") (.float 0)

def count (name : String) : Exec Unit := do
  let value ← global name
  setGlobal (ascii name) (.float (value.toNumber + 1))

def nextMainRecord : Nat → Exec (Option Bytes)
  | 0 => return none
  | bound + 1 => do
      let machine ← get
      if machine.exhausted then return none
      else
        match machine.main with
        | some stream =>
            set { machine with main := none }
            let (record, stream) ← nextRecord stream
            match record with
            | some text =>
                modify fun machine => { machine with main := some stream }
                count "NR"
                count "FNR"
                return some text
            | none =>
                let _ ← closeStream stream
                nextMainRecord bound
        | none =>
            if ← openNext Act.unbounded then nextMainRecord bound
            else
              modify fun machine => { machine with exhausted := true }
              return none

def skipFile : Exec Unit := do
  match (← get).main with
  | some stream =>
      let _ ← closeStream stream
      modify fun machine => { machine with main := none }
  | none => return ()

/-! Other files and commands. -/

def streamOf? (isCommand : Bool) (name : Bytes) : Exec (Option Stream) := do
  match (← get).inputs.lookup (isCommand, name) with
  | some stream => return some stream
  | none =>
      if isCommand then
        let (number, process) ← startCommand name false
        return some { number, child := some process }
      else if isStandard name ∨ name = ascii "/dev/stdin" then return some { number := 0 }
      else
        match ← Act.openPath name { read := true } with
        | .ok number => return some { number }
        | .error _ => return none

def nextFrom (isCommand : Bool) (name : Bytes) : Exec (Option (Option Bytes)) := do
  match ← streamOf? isCommand name with
  | none => return none
  | some stream =>
      let (record, stream) ← nextRecord stream
      modify fun machine => { machine with
        inputs := ((isCommand, name), stream) ::
          machine.inputs.filter fun entry => entry.1 != (isCommand, name) }
      return some record

end Exec

end Rpn.Tool.Awk
