import Rpn.Host.System
import Rpn.Shell.Redirect

/-! What commands ask of the interpreter that runs them: to run other commands, in the same shell or
in a process of their own.  Only serves the test environment. -/

namespace Rpn.Shell

open Host

/-- Where a command stands.  After the `last` one the shell ends, and one that is `tested` may
fail without ending the shell. -/
structure Position where
  last : Bool := false
  tested : Bool := false

structure Executor where
  system : System
  run : Position → Command → Run Unit

def statusOf : Ending → Nat
  | .exited status => status
  | .killed signal => 128 + signal

namespace Run

def noteEnding (ending : Ending) : Run Unit := do
  match ending with
  | .exited _ => return ()
  | .killed signal =>
      let isTold := if (← get).extended then signal == Signal.terminate
        else signal != Signal.interrupt && signal != Signal.brokenPipe
      if isTold then
        let _ ← write 2 (Bytes.line (Signal.note signal))

def waitFor (process : Nat) : Run Nat := do
  match ← Act.wait process with
  | some ending =>
      noteEnding ending
      return statusOf ending
  | none => return 127

end Run

namespace Executor

/-! Texts. -/

def syntaxMessage : SyntaxFault → Bytes
  | .unexpected found => ascii "Syntax error: \"" ++ found ++ ascii "\" unexpected"
  | .unfinished missing => ascii "Syntax error: missing " ++ missing
  | .tooDeep => ascii "Syntax error: nested too deep"

def source (shell : State) (text : Bytes) (line : Nat := 1) : Source :=
  { rest := text, line, extended := shell.extended, fresh := shell.fresh
    groups := shell.settings.contains (ascii "extglob")
    aliases := if shell.extended && !shell.settings.contains (ascii "expand_aliases") then []
      else shell.aliases }

def keepDocuments (source : Source) : Run Unit :=
  modify fun shell => { shell with
    documents := source.documents ++ shell.documents, fresh := source.fresh }

/-- Run the commands of a line.  In the extended language a fault ends only them. -/
def discarding (task : Run Unit) : Run Unit := do
  try task
  catch stop =>
    match stop with
    | .fault => if (← get).extended ∧ (← get).level = 0 then return () else throw stop
    | stop => throw stop

def runLines (self : Executor) (position : Position) : Nat → Nat → Bytes → Run Unit
  | 0, _, _ => return ()
  | bound + 1, line, text => do
      match Reader.line.run (source (← get) text line) with
      | .error fault =>
          Run.fail (syntaxMessage fault)
      | .ok (none, _) => return ()
      | .ok (some (command, ended), after) =>
          keepDocuments after
          discarding (self.run { position with last := position.last && ended } command)
          if ended then return ()
          else runLines self position bound after.line after.rest

/-- Run a text of commands.  Its status is 0 if it holds none. -/
def text (self : Executor) (position : Position) (text : Bytes) : Run Unit :=
  runLines self position (text.length + 1) (1) text

/-! Signals. -/

def keepingStatus (task : Run Unit) : Run Unit := do
  let status := (← get).status
  task
  Run.setStatus status

def runTrap (self : Executor) (action : Bytes) : Run Unit := do
  let shell ← get
  let removed := !shell.traps.any (·.2 == action)
  set { shell with
    trapped := some shell.status
    indirection := if removed then shell.indirection else shell.indirection + 1 }
  let after : Run Unit := modify fun now => { now with
    trapped := shell.trapped, indirection := shell.indirection, line := shell.line
    statuses := shell.statuses }
  (keepingStatus (self.text {} action)).followedBy after

def runEvent (self : Executor) (event : Nat) : Run Unit := do
  match (← get).traps.lookup event with
  | some (first :: rest) =>
      if !(← get).events.contains event then
        modify fun shell => { shell with events := event :: shell.events }
        let after : Run Unit := modify fun shell => { shell with
          events := shell.events.filter (· ≠ event) }
        (runTrap self (first :: rest)).followedBy after
  | _ => return ()

def handleSignals (self : Executor) : Run Unit := do
  match ← Act.takeSignals with
  | [] => return ()
  | signals =>
      for signal in signals.mergeSort do
        match ← Run.trap? signal with
        | some (first :: rest) => runTrap self (first :: rest)
        | _ => pure ()

def finish (self : Executor) : Run Unit := do
  match ← Run.trap? 0 with
  | some (first :: rest) =>
      modify fun shell => { shell with
        traps := shell.traps.filter (·.1 ≠ 0), loops := 0, indirection := shell.indirection - 1 }
      let _ ← (runTrap self (first :: rest)).outcome
  | _ => pure ()
  Act.finish (.exited ((← get).status % 256))

def conclude (self : Executor) (body : Run Unit) : Run Unit := do
  let _ ← body.outcome
  finish self

def program (self : Executor) (shell : State) (body : Run Unit) : Program :=
  (conclude self body).toProgram shell fun _ shell =>
    .finish (.exited (shell.status % 256))

/-! Processes. -/

def isKept (shell : State) (signal : Nat) : Bool :=
  if signal = Event.failure then shell.options.contains (ascii "errtrace")
  else if signal = Event.command || signal = Event.return then
    shell.options.contains (ascii "functrace")
  else false

/-- The shell as a child begins with it: commands for signals are forgotten, but those that are
ignored stay so. -/
def childShell (shell : State) : State :=
  { shell with
    level := shell.level + 1, background := [], ended := [], connected := []
    traps := shell.traps.filter fun (signal, action) => action = [] || isKept shell signal }

def fork (self : Executor) (body : Run Unit) : Run Nat := do
  let shell ← get
  let started : Run Unit := do
    Act.modifyProcess fun process => { process with caught := [], received := [] }
    body
  Act.fork (program self (childShell shell) started)

def parse (text : Bytes) : Run Command := do
  match Reader.whole.run (source (← get) text) with
  | .ok (command, after) =>
      keepDocuments after
      return command
  | .error fault => Run.fail (syntaxMessage fault)

def parseDocument (text : Bytes) : Run Word := do
  match Reader.document.run (source (← get) text) with
  | .ok (word, _) => return word
  | .error fault => Run.fail (syntaxMessage fault)

def dropTrailingLines (text : Bytes) : Bytes :=
  (text.reverse.dropWhile (· == Ascii.newline)).reverse

def asSubstituted (shell : State) : State :=
  let keeps := !shell.extended || shell.settings.contains (ascii "inherit_errexit") ||
    shell.options.contains (ascii "posix")
  { shell with
    indirection := shell.indirection + 1
    options := if keeps then shell.options else shell.options.filter (· ≠ ascii "errexit") }

def onlyInput? : Command → Option Redirection
  | .simple _ [] [] [redirection] =>
      if redirection.kind = .input ∧ redirection.number.getD 0 = 0 then some redirection else none
  | _ => none

def substitute (self : Executor) (text : Bytes) : Run Bytes := do
  let command ← parse text
  let (reading, writing) ← Act.pipe
  let child ← fork self do
    Act.close reading
    Act.move writing 1
    modify asSubstituted
    match if (← get).extended then onlyInput? command else none with
    | some redirection =>
        let (_, ready) ← Redirect.performAll []
          [← Redirect.resolve { substitute := fun _ => pure [], connect := fun _ _ => pure [] }
            redirection]
        if ready then
          let text ← Act.readAll 0
          let _ ← Run.write 1 (text.toOption.getD [])
        else Run.setStatus 1
    | none => self.run { last := true } command
  Act.close writing
  let output ← Act.readAll reading
  Act.close reading
  let status ← Run.waitFor child
  modify fun shell => { shell with
    substituted := some status, status := if shell.extended then status else shell.status }
  return dropTrailingLines ((output.toOption.getD []).filter (· != 0))

def connect (self : Executor) (isRead : Bool) (text : Bytes) : Run Bytes := do
  let command ← parse text
  let (reading, writing) ← Act.pipe
  let (kept, given, target) := if isRead then (reading, writing, 1) else (writing, reading, 0)
  let kept ← Act.ask fun self world =>
    let free := world.freeDescriptorBelow self 63
    match world.descriptor? self kept with
    | some descriptor => (free, (world.setDescriptor self free descriptor).closeDescriptor self kept)
    | none => (free, world)
  let _ ← fork self do
    Act.close kept
    Act.move given target
    self.run { last := true } command
  Act.close given
  modify fun shell => { shell with connected := kept :: shell.connected }
  return ascii "/dev/fd/" ++ .ofNat kept

/-- Become another program, which is known by a name of its own if one is given.  If that fails,
the shell ends. -/
def become (self : Executor) (arguments : List Bytes) (searched? : Option Bytes := none)
    (called? : Option Bytes := none) (environment? : Option (List Bytes) := none) : Run Unit := do
  let known := (← get).known
  let environment := environment?.getD (← get).environment
  let name := arguments.headD []
  let arguments := called?.getD name :: arguments.tail
  let fault ←
    if name.contains Ascii.slash then self.system.execOrScript name arguments environment
    else
      let searched := searched?.getD ((known.text? (ascii "PATH")).getD [])
      self.system.tryCandidates arguments environment .missing (System.candidates searched name)
  let (message, status) := match fault with
    | .missing | .notFolder => (ascii "not found", 127)
    | fault => (fault.message, 126)
  Run.complain (name ++ ascii ": " ++ message)
  Run.setStatus status
  throw .exit

def hooks (self : Executor) : Hooks :=
  { substitute := substitute self, connect := connect self }

end Executor

end Rpn.Shell
