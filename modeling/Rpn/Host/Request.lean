import Rpn.Host.Program

/-! The requests that programs make.  Part of the test environment. -/

namespace Rpn.Host.Act

def unbounded : Nat := 1099511627776

def self : Act Nat :=
  look fun self _ => self

def process : Act Process :=
  look fun self world => world.process self

def modifyProcess (update : Process → Process) : Act Unit :=
  change fun self world => world.modifyProcess self update

def files : Act Files :=
  look fun _ world => world.files

def user : Act User :=
  look fun _ world => world.files.user

def setMode (text : Bytes) (follow : Bool) (mode : Nat) : Act (Except Fault Unit) :=
  ask fun self world =>
    match world.examine self text follow with
    | .error fault => (.error fault, world)
    | .ok (some id, node) =>
        if world.files.user.owns node then
          (.ok (), { world with files := world.files.modify id fun node => { node with mode } })
        else (.error .notPermitted, world)
    | .ok (none, _) => (.error .notPermitted, world)

/-- Set the times of a node.  Who does not own it may at most let it seem changed now, and that only
if it may be written. -/
def setTimes (text : Bytes) (follow : Bool) (accessed modified : Option Nat) (now : Bool) :
    Act (Except Fault Unit) :=
  ask fun self world =>
    match world.examine self text follow with
    | .error fault => (.error fault, world)
    | .ok (some id, node) =>
        let files := world.files
        if files.user.owns node ∨ (now ∧ files.permits id User.writing) then
          (.ok (), { world with
            files := files.modify id fun node => { node with
              accessed := accessed.getD node.accessed
              modified := modified.getD node.modified } })
        else (.error (if now then .denied else .notPermitted), world)
    | .ok (none, _) => (.error .notPermitted, world)

def tryFiles (update : Files → NodeId → Except Fault Files) : Act (Except Fault Unit) :=
  ask fun self world =>
    match update world.files (world.process self).folder with
    | .ok files => (.ok (), { world with files })
    | .error fault => (.error fault, world)

def examine (text : Bytes) (follow : Bool := true) : Act (Except Fault (Option NodeId × Node)) :=
  look fun self world => world.examine self text follow

def masked (mode : Nat) : Act Nat :=
  look fun self world => world.masked self mode

/-! Descriptors. -/

def enterFolder (text : Bytes) : Act (Except Fault Unit) :=
  ask fun self world =>
    match world.files.find (world.process self).folder text with
    | .ok id =>
        if !world.files.isFolder id then (.error .notFolder, world)
        else if !world.files.permits id User.passing then (.error .denied, world)
        else (.ok (), world.modifyProcess self fun process => { process with folder := id })
    | .error fault => (.error fault, world)

def openFrom (least : Nat) (text : Bytes) (access : Access) (inherited : Bool := true) :
    Act (Except Fault Nat) := do
  let opened ← ask fun self world =>
    match world.openPath self text access with
    | .error fault => (Except.error fault, world)
    | .ok (description, world) =>
        let (id, world) := world.describe description
        let number := world.freeDescriptor self least
        (.ok (number, description), world.setDescriptor self number { description := id, inherited })
  match opened with
  | .error fault => return .error fault
  | .ok (number, description) =>
      match description.target, description.named && description.readable != description.writable with
      | .pipe pipe, true =>
          await fun _ world =>
            if world.hasEnd pipe description.readable then some (.ok number, world) else none
      | _, _ => return .ok number

def openPath (text : Bytes) (access : Access) : Act (Except Fault Nat) :=
  openFrom 0 text access

def close (number : Nat) : Act Unit :=
  change fun self world => world.closeDescriptor self number

/-- Make a number stand for the same open file as another.  The answer is whether the other is
open. -/
def duplicate (source target : Nat) (inherited : Bool := true) : Act Bool :=
  ask fun self world =>
    match world.descriptor? self source with
    | some descriptor =>
        (true, world.setDescriptor self target { descriptor with inherited })
    | none => (false, world)

def move (source target : Nat) : Act Unit := do
  if source ≠ target then
    let _ ← duplicate source target
    close source

def pipe : Act (Nat × Nat) :=
  ask fun self world =>
    let (number, world) := world.makePipe
    let (reading, world) := world.describe { target := .pipe number, readable := true }
    let (writing, world) := world.describe { target := .pipe number, writable := true }
    let first := world.freeDescriptor self 0
    let world := world.setDescriptor self first { description := reading }
    let second := world.freeDescriptor self 0
    ((first, second), world.setDescriptor self second { description := writing })

def blockSize : Nat := 65536

def read (number : Nat) (count : Nat := blockSize) : Act (Except Fault Bytes) :=
  await fun self world => world.read self number count

def writeLoop (number : Nat) : Nat → Bytes → Act (Except Fault Unit)
  | 0, _ => return .ok ()
  | bound + 1, text => do
      match ← await fun self world => world.write self number text with
      | .error fault => return .error fault
      | .ok [] => return .ok ()
      | .ok rest => writeLoop number bound rest

def write (number : Nat) (text : Bytes) : Act (Except Fault Unit) :=
  writeLoop number (text.length + 1) text

def readLoop (number : Nat) : Nat → List Bytes → Act (Except Fault Bytes)
  | 0, blocks => return .ok blocks.reverse.flatten
  | bound + 1, blocks => do
      match ← read number with
      | .error fault => return .error fault
      | .ok [] => return .ok blocks.reverse.flatten
      | .ok block => readLoop number bound (block :: blocks)

def readAll (number : Nat) : Act (Except Fault Bytes) :=
  readLoop number unbounded []

def readPath (text : Bytes) : Act (Except Fault Bytes) := do
  match ← openPath text { read := true } with
  | .error fault => return .error fault
  | .ok number =>
      let content ← readAll number
      close number
      return content

def description? (number : Nat) : Act (Option Description) :=
  look fun self world => world.description? self number

def seek (number offset : Nat) : Act Unit :=
  change fun self world =>
    match world.descriptor? self number with
    | some descriptor =>
        world.modifyDescription descriptor.description fun description =>
          { description with offset }
    | none => world

/-! Processes. -/

/-- Wait until a child ends.  There is no answer about a process that is no child. -/
def wait (child : Nat) : Act (Option Ending) :=
  await fun self world =>
    match world.process? child with
    | none => some (none, world)
    | some process =>
        if process.parent ≠ self then some (none, world)
        else
          match process.ended with
          | some ending => some (some ending, world.forget child)
          | none => none

inductive Waited where
  | ended (ending : Ending)
  | interrupted
  | noChild

def waitInterruptibly (child : Nat) : Act Waited :=
  await fun self world =>
    match world.process? child with
    | none => some (.noChild, world)
    | some process =>
        if process.parent ≠ self then some (.noChild, world)
        else
          match process.ended with
          | some ending => some (.ended ending, world.forget child)
          | none =>
              if (world.process self).received.isEmpty then none else some (.interrupted, world)

def signal (target signal : Nat) : Act (Except Fault Unit) :=
  ask fun _ world => world.signal target signal

def takeSignals : Act (List Nat) :=
  ask fun self world =>
    match (world.process self).received with
    | [] => ([], world)
    | received =>
        (received, world.modifyProcess self fun process => { process with received := [] })

def sleep (nanoseconds : Nat) : Act Unit := do
  let wake ← look fun _ world => world.now + nanoseconds
  modifyProcess fun process => { process with wake := some wake }
  await fun _ world => if wake ≤ world.now then some ((), world) else none
  modifyProcess fun process => { process with wake := none }

def startTime : Nat := 500000

/-- Become another program: its name, arguments and environment are shown, only inherited
descriptors stay open, and no signal is caught any more. -/
def execute {α : Type} (name : Bytes) (arguments environment : List Bytes) (program : Program) :
    Act α := do
  sleep startTime
  modifyProcess fun process => { process with
    name := name.take 15, arguments, environment, caught := [], received := []
    descriptors := process.descriptors.filter (·.2.inherited) }
  become program

def runChild (child : Program) : Act Ending := do
  let number ← fork child
  return (← wait number).getD (.exited 127)

end Rpn.Host.Act
