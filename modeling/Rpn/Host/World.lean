import Rpn.Host.Files
import Rpn.Host.Signal
import Rpn.Job

/-! What processes share: the files, the two streams of a job, pipes, open files, the clock, and
what the system knows of each process.  Part of the test environment. -/

namespace Rpn.Host

inductive Target where
  | node (id : NodeId)
  | pipe (number : Nat)
  | stream (stream : Stream)
  deriving DecidableEq, Repr

/-- An open file.  Processes that inherit it share its offset.  A pipe that has a name in the file
tree is `named`. -/
structure Description where
  target : Target
  offset : Nat := 0
  readable : Bool := false
  writable : Bool := false
  appending : Bool := false
  named : Bool := false

/-- An entry in the table of a process.  Only inherited entries outlive the start of another
program. -/
structure Descriptor where
  description : Nat
  inherited : Bool := true
  deriving Inhabited

inductive Ending where
  | exited (status : Nat)
  | killed (signal : Nat)
  deriving DecidableEq, Repr

/-- Bytes on their way; the first ones are taken already. -/
structure Pipe where
  data : ByteArray := .empty
  taken : Nat := 0
  deriving Inhabited

structure Process where
  parent : Nat := 0
  name : Bytes := []
  arguments : List Bytes := []
  environment : List Bytes := []
  folder : NodeId := Files.root
  mask : Nat := 18
  niceness : Int := 0
  descriptors : List (Nat × Descriptor) := []
  pending : List Nat := []
  ignored : List Nat := []
  caught : List Nat := []
  received : List Nat := []
  stopped : Bool := false
  wake : Option Nat := none
  ended : Option Ending := none
  deriving Inhabited

structure World where
  files : Files
  output : ByteArray := .empty
  errors : ByteArray := .empty
  pipes : Array Pipe := #[]
  descriptions : Array Description := #[]
  processes : List (Nat × Process) := []
  fresh : Nat := 2

structure Access where
  read : Bool := false
  write : Bool := false
  create : Bool := false
  truncate : Bool := false
  append : Bool := false
  exclusive : Bool := false
  mode : Nat := 438

namespace World

def now (world : World) : Nat :=
  world.files.now

def print (world : World) : Stream → Bytes → World
  | .output, text =>
      let { files, output, errors, pipes, descriptions, processes, fresh } := world
      { files, output := text.foldl .push output, errors, pipes, descriptions, processes, fresh }
  | .errors, text =>
      let { files, output, errors, pipes, descriptions, processes, fresh } := world
      { files, output, errors := text.foldl .push errors, pipes, descriptions, processes, fresh }

/-! Processes. -/

def process? (world : World) (number : Nat) : Option Process :=
  world.processes.lookup number

def process (world : World) (number : Nat) : Process :=
  (world.process? number).getD {}

def modifyProcess (world : World) (number : Nat) (change : Process → Process) : World :=
  { world with
    processes := world.processes.map fun (other, process) =>
      if other = number then (other, change process) else (other, process) }

def spawn (world : World) (parent : Nat) : Nat × World :=
  let child := { world.process parent with
    parent, pending := [], received := [], wake := none, ended := none, stopped := false }
  (world.fresh, { world with
    fresh := world.fresh + 1
    processes := world.processes ++ [(world.fresh, child)] })

/-- A process ends.  Its children have no parent any more, and nothing is kept of a process
without a parent. -/
def endProcess (world : World) (number : Nat) (ending : Ending) : World :=
  let parent := (world.process number).parent
  let processes := world.processes.filterMap fun (other, process) =>
    if other = number then
      if parent = 0 then none
      else some (other, { process with
        ended := some ending, descriptors := [], pending := [], wake := none })
    else if process.parent = number then
      if process.ended.isSome then none else some (other, { process with parent := 0 })
    else if other = parent ∧ process.caught.contains Signal.child then
      some (other, { process with pending := process.pending ++ [Signal.child] })
    else some (other, process)
  { world with processes }

def forget (world : World) (number : Nat) : World :=
  { world with processes := world.processes.filter (·.1 ≠ number) }

def firstProcess : Nat := 1

def signal (world : World) (number signal : Nat) : Except Fault Unit × World :=
  if number = firstProcess then (.error .notPermitted, world)
  else
    match world.process? number with
    | none => (.error .noProcess, world)
    | some process =>
        if process.ended.isSome ∨ signal = 0 then (.ok (), world)
        else
          (.ok (), world.modifyProcess number fun process =>
            { process with pending := process.pending ++ [signal] })

/-- Let a signal that was sent to a process act on it.  The answer is the signal if it ends the
process. -/
def deliver (world : World) (number : Nat) : Option Nat × World :=
  let process := world.process number
  match process.pending with
  | [] => (none, world)
  | signal :: pending =>
      let keep := fun (process : Process) => world.modifyProcess number fun _ =>
        { process with pending }
      if signal = Signal.kill then (some signal, world)
      else if signal = Signal.stop then (none, keep { process with stopped := true })
      else if process.ignored.contains signal then (none, keep process)
      else if process.caught.contains signal then
        (none, keep { process with received := process.received ++ [signal], stopped := false })
      else
        match Signal.effect signal with
        | .terminate => (some signal, world)
        | .ignore => (none, keep process)
        | .stop => (none, keep { process with stopped := true })
        | .resume => (none, keep { process with stopped := false })

/-! Descriptors. -/

def descriptor? (world : World) (process number : Nat) : Option Descriptor :=
  (world.process process).descriptors.lookup number

def description? (world : World) (process number : Nat) : Option Description := do
  let descriptor ← world.descriptor? process number
  world.descriptions[descriptor.description]?

def setDescriptor (world : World) (process number : Nat) (descriptor : Descriptor) : World :=
  world.modifyProcess process fun process => { process with
    descriptors := (number, descriptor) :: process.descriptors.filter (·.1 ≠ number) }

def closeDescriptor (world : World) (process number : Nat) : World :=
  world.modifyProcess process fun process => { process with
    descriptors := process.descriptors.filter (·.1 ≠ number) }

/-- The least number from a given one on that a process does not use. -/
def freeNumber (used : List Nat) : Nat → Nat → Nat
  | 0, number => number
  | bound + 1, number =>
      if used.contains number then freeNumber used bound (number + 1) else number

def freeDescriptor (world : World) (process least : Nat) : Nat :=
  let used := (world.process process).descriptors.map (·.1)
  freeNumber used (used.length + 1) least

/-- The greatest number up to some bound that no descriptor has. -/
def freeDescriptorBelow (world : World) (process most : Nat) : Nat :=
  let used := (world.process process).descriptors.map (·.1)
  (((List.range (most + 1)).reverse.find? (!used.contains ·))).getD most

def describe (world : World) (description : Description) : Nat × World :=
  (world.descriptions.size,
    { world with descriptions := world.descriptions.push description })

def modifyDescription (world : World) (number : Nat) (change : Description → Description) :
    World :=
  { world with descriptions := world.descriptions.modify number change }

def hasEnd (world : World) (pipe : Nat) (writing : Bool) : Bool :=
  world.processes.any fun (_, process) =>
    process.descriptors.any fun (_, descriptor) =>
      match world.descriptions[descriptor.description]? with
      | some description =>
          description.target == .pipe pipe &&
            (if writing then description.writable else description.readable)
      | none => false

def makePipe (world : World) : Nat × World :=
  (world.pipes.size, { world with pipes := world.pipes.push {} })

/-! What the system shows of processes. -/

inductive Shown where
  | folder
  | text (content : Bytes)
  | descriptor (process number : Nat)
  | link (target : Bytes)

def shownProcess? (world : World) (self : Nat) (name : Bytes) : Option Nat := do
  let number ← if name = ascii "self" then some self else Bytes.toNat? name
  let process ← world.process? number
  if process.ended.isSome then none else some number

def shown? (world : World) (self : Nat) (names : List Bytes) : Option Shown := do
  match names with
  | name :: rest =>
      let number ← world.shownProcess? self name
      let process := world.process number
      match rest with
      | [] => return .folder
      | [entry] =>
          if entry = ascii "comm" then return .text process.name.line
          else if entry = ascii "cmdline" then
            return .text (process.arguments.flatMap (· ++ [0]))
          else if entry = ascii "environ" then
            return .text (process.environment.flatMap (· ++ [0]))
          else if entry = ascii "fd" then return .folder
          else if entry = ascii "cwd" then
            return .link (world.files.pathOf process.folder).render
          else none
      | [entry, descriptor] =>
          if entry = ascii "fd" then
            let found ← Bytes.toNat? descriptor
            let _ ← process.descriptors.lookup found
            return .descriptor number found
          else none
      | _ => none
  | [] => none

/-! Places. -/

def locate (world : World) (process : Nat) (text : Bytes) (follow : Bool := true) :
    Except Fault Place :=
  world.files.locate (world.process process).folder text follow

def examine (world : World) (process : Nat) (text : Bytes) (follow : Bool := true) :
    Except Fault (Option NodeId × Node) := do
  match ← world.locate process text follow with
  | .node id => return (some id, world.files.node id)
  | .vacant _ _ => .error .missing
  | .process names =>
      match world.shown? process names with
      | none => .error .missing
      | some .folder => return (none, { content := .folder 0 [], mode := 365 })
      | some (.text content) =>
          return (none, { content := .file content.toByteArray, mode := 292 })
      | some (.link target) => return (none, { content := .link target, mode := 511 })
      | some (.descriptor owner number) =>
          match world.description? owner number with
          | some { target := .node id, .. } => return (some id, world.files.node id)
          | _ => return (none, { content := .fifo 0, mode := 384 })

def masked (world : World) (process mode : Nat) : Nat :=
  mode &&& (4095 ^^^ (world.process process).mask)

def requireAccess (world : World) (id : NodeId) (access : Access) : Except Fault Unit :=
  let reading := if access.read then User.reading else 0
  let writing := if access.write ∨ access.truncate then User.writing else 0
  if world.files.isFolder id ∧ writing ≠ 0 then .error .isFolder
  else world.files.require id (reading + writing)

def openNode (world : World) (id : NodeId) (access : Access) :
    Except Fault (Description × World) :=
  let description : Description :=
    { target := .node id, readable := access.read, writable := access.write,
      appending := access.append }
  match world.files.content id with
  | .folder _ _ | .processes => if access.write then .error .isFolder else .ok (description, world)
  | .file _ =>
      if access.truncate then
        .ok (description, { world with files := world.files.setContent id (.file .empty) })
      else .ok (description, world)
  | .fifo pipe => .ok ({ description with target := .pipe pipe, named := true }, world)
  | .device .terminal => .error .noDevice
  | .device _ | .tool _ => .ok (description, world)
  | .link _ => .error .manyLinks

def openPath (world : World) (process : Nat) (text : Bytes) (access : Access) :
    Except Fault (Description × World) := do
  if access.create ∧ text.getLast? = some Ascii.slash ∧
      (world.files.find (world.process process).folder text).toOption.isNone then
    .error .isFolder
  else
    match ← world.locate process text with
    | .node id =>
        if access.exclusive then .error .present
        else
          world.requireAccess id access
          world.openNode id access
    | .vacant folder name =>
        if access.create then
          world.files.requireChange folder
          let mode := world.masked process access.mode
          let (id, files) := world.files.create folder name (.file .empty) mode
          { world with files }.openNode id access
        else .error .missing
    | .process names =>
        match world.shown? process names with
        | none => .error .missing
        | some .folder => .ok ({ target := .node Files.root, readable := true }, world)
        | some (.link _) => .error .missing
        | some (.text content) =>
            let (id, files) := world.files.add (.file content.toByteArray) 292
            { world with files }.openNode id { read := true }
        | some (.descriptor owner number) =>
            match world.description? owner number with
            | some { target := .node id, .. } =>
                world.requireAccess id access
                world.openNode id access
            | some description =>
                .ok ({ description with
                  readable := access.read, writable := access.write, named := false }, world)
            | none => .error .missing

/-! Reading and writing.  The answer `none` means that the process has to wait. -/

def pipeCapacity : Nat := 65536

def readPipe (world : World) (number count : Nat) : Option (Bytes × World) :=
  let pipe := world.pipes.getD number {}
  if pipe.taken < pipe.data.size then
    let found := (pipe.data.extract pipe.taken (pipe.taken + count)).toList
    let taken := pipe.taken + found.length
    let pipe : Pipe := if taken = pipe.data.size then {} else { pipe with taken }
    some (found, { world with pipes := world.pipes.set! number pipe })
  else if world.hasEnd number true then none
  else some ([], world)

def noise (seed : Nat) : Nat → Bytes
  | 0 => []
  | count + 1 =>
      let next := (seed * 6364136223846793005 + 1442695040888963407) % 18446744073709551616
      (next / 4294967296).toUInt8 :: noise next count

def readDescription (world : World) (number : Nat) (description : Description) (count : Nat) :
    Option (Except Fault Bytes × World) :=
  if !description.readable then some (.error .badDescriptor, world)
  else
    match description.target with
    | .stream _ => some (.ok [], world)
    | .pipe pipe => do
        let (found, world) ← world.readPipe pipe count
        return (.ok found, world)
    | .node id =>
        match world.files.content id with
        | .file data =>
            let found :=
              (data.extract description.offset (description.offset + count)).toList
            some (.ok found, world.modifyDescription number fun description =>
              { description with offset := description.offset + found.length })
        | .folder _ _ | .processes => some (.error .isFolder, world)
        | .device .zero | .device .full => some (.ok (List.replicate count 0), world)
        | .device .random =>
            some (.ok (noise (world.now + world.descriptions.size) count),
              world.modifyDescription number fun description =>
                { description with offset := description.offset + count })
        | _ => some (.ok [], world)

/-- Read at most `count` bytes from a descriptor. -/
def read (world : World) (process number count : Nat) : Option (Except Fault Bytes × World) :=
  match world.descriptor? process number with
  | none => some (.error .badDescriptor, world)
  | some descriptor =>
      match world.descriptions[descriptor.description]? with
      | none => some (.error .badDescriptor, world)
      | some description => world.readDescription descriptor.description description count

/-- Write to a pipe.  The answer is what did not find room. -/
def writePipe (world : World) (process number : Nat) (text : Bytes) :
    Option (Except Fault Bytes × World) :=
  if !world.hasEnd number false then
    some (.error .brokenPipe, (world.signal process Signal.brokenPipe).2)
  else
    let pipe := world.pipes.getD number {}
    let room := pipeCapacity - (pipe.data.size - pipe.taken)
    if room = 0 then none
    else
      let world := { world with pipes := world.pipes.modify number fun pipe =>
        { pipe with data := (text.take room).foldl .push pipe.data } }
      some (.ok (text.drop room), world)

/-- Write to a descriptor.  The answer is the text that is left to write. -/
def write (world : World) (process number : Nat) (text : Bytes) :
    Option (Except Fault Bytes × World) :=
  match world.descriptor? process number with
  | none => some (.error .badDescriptor, world)
  | some descriptor =>
      match world.descriptions[descriptor.description]? with
      | none => some (.error .badDescriptor, world)
      | some description =>
          if !description.writable then some (.error .badDescriptor, world)
          else
            match description.target with
            | .stream stream => some (.ok [], world.print stream text)
            | .pipe pipe => world.writePipe process pipe text
            | .node id =>
                match world.files.content id with
                | .file data =>
                    let offset := if description.appending then data.size else description.offset
                    writeFile world descriptor.description id offset text
                | .device .full =>
                    if text = [] then some (.ok [], world) else some (.error .noSpace, world)
                | _ => some (.ok [], world)
where
  writeFile (world : World) (description : Nat) (id : NodeId) (offset : Nat) (text : Bytes) :
      Option (Except Fault Bytes × World) :=
    let { files, output, errors, pipes, descriptions, processes, fresh } := world
    let files := files.write id offset text
    let world : World := { files, output, errors, pipes, descriptions, processes, fresh }
    some (.ok [], world.modifyDescription description fun description =>
      { description with offset := offset + text.length })

end World

end Rpn.Host
