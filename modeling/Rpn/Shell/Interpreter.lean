import Rpn.Shell.Conditional
import Rpn.Shell.Duration
import Rpn.Shell.Menu
import Rpn.Shell.Simple

/-! Running commands of every kind.  Only serves the test environment. -/

namespace Rpn.Shell

open Host

namespace Interpreter

/-! Loops. -/

inductive Progress where
  | again
  | over

def turn (body : Run Unit) : Run Progress := do
  try
    body
    return .again
  catch stop =>
    match stop with
    | .leave 1 | .leave 0 => return .over
    | .leave (count + 2) => throw (.leave (count + 1))
    | .resume 1 | .resume 0 => return .again
    | .resume (count + 2) => throw (.resume (count + 1))
    | stop => throw stop

def inLoop (task : Run Unit) : Run Unit := do
  modify fun shell => { shell with loops := shell.loops + 1 }
  task.followedBy (modify fun shell => { shell with loops := shell.loops - 1 })

/-- Run a body as long as a test has the expected end.  The status is that of the last run of the
body. -/
def loopWhile (test body : Run Unit) (expected : Bool) : Nat → Nat → Run Unit
  | 0, status => Run.setStatus status
  | bound + 1, status => do
      match ← test.outcome with
      | .ok () =>
          if ((← get).status == 0) == expected then
            match ← turn body with
            | .again => loopWhile test body expected bound (← get).status
            | .over => return ()
          else Run.setStatus status
      | .error stop =>
          match ← turn (throw stop) with
          | .again => loopWhile test body expected bound status
          | .over => Run.setStatus status

def turnAgain (body : Run Unit) : Run Bool := do
  match ← turn body with
  | .again => return true
  | .over => return false

def loopEach (name : Bytes) (before body : Run Unit) : List Bytes → Run Unit
  | [] => return ()
  | text :: rest => do
      before
      Run.setVariable name text
      match ← turn body with
      | .again => loopEach name before body rest
      | .over => return ()

/-! Choices. -/

def matchesAny (hooks : Hooks) (subject : Bytes) : List Word → Run Bool
  | [] => return false
  | word :: rest => do
      if (← expandPattern hooks word).matchesWhole subject then return true
      else matchesAny hooks subject rest

/-- Run the branch that a subject matches, and those that it goes on to.  The status is 0 if nothing
runs. -/
def choose (self : Executor) (position : Position) (subject : Bytes) :
    Bool → List (List Word × Command × BranchEnd) → Run Unit
  | entered, [] => if entered then return () else Run.setStatus 0
  | entered, (patterns, body, ending) :: rest => do
      let found ← if entered then pure true else matchesAny self.hooks subject patterns
      if found then
        match body, ending with
        | .skip, .leave => Run.setStatus 0
        | body, .leave => self.run position body
        | body, .enterNext =>
            self.run { position with last := false } body
            choose self position subject true rest
        | body, .testNext =>
            self.run { position with last := false } body
            choose self position subject false rest
      else choose self position subject false rest

/-! Pipelines. -/

/-- Start the commands of a pipeline.  `input` is the end of a pipe that the first of them reads
from, and the commands do not have the descriptors in `closed`. -/
def startPipeline (self : Executor) (position : Position) (input : Option Nat)
    (commands : List Command) (closed : List Nat := []) : Run (List Nat) := do
  match commands with
  | [] => return []
  | [command] => do
      let child ← self.fork do
        for number in closed do Act.close number
        match input with
        | some input => Act.move input 0
        | none => pure ()
        self.run { last := true, tested := position.tested } command
      match input with
      | some input => Act.close input
      | none => pure ()
      return [child]
  | command :: rest => do
      let (reading, writing) ← Act.pipe
      let child ← self.fork do
        for number in closed do Act.close number
        Act.close reading
        match input with
        | some input => Act.move input 0
        | none => pure ()
        Act.move writing 1
        self.run { last := true, tested := position.tested } command
      match input with
      | some input => Act.close input
      | none => pure ()
      Act.close writing
      return child :: (← startPipeline self position (some reading) rest closed)

/-- Look for the programs of a pipeline before they are started, so that their places are
remembered. -/
def prepare : List Command → Run Unit
  | [] => return ()
  | command :: rest => do
      match command with
      | .simple _ _ (word :: _) _ =>
          match word.plain? with
          | some name =>
              if isName name then
                match ← Lookup.command name with
                | .file path => Builtin.remember name path
                | _ => pure ()
          | none => pure ()
      | _ => pure ()
      prepare rest

def lastInPlace (self : Executor) (position : Position) (commands : List Command) :
    Run (List Nat) := do
  let (reading, writing) ← Act.pipe
  let saved ← Redirect.save [] 1
  Act.move writing 1
  let children ← startPipeline self position none commands.dropLast [reading]
  Redirect.restore saved
  let saved ← Redirect.place [] 0 reading
  let last := commands.getLastD .skip
  (self.run { tested := position.tested } last).followedBy (Redirect.restore saved)
  let status := (← get).status
  return (← children.mapM Run.waitFor) ++ [status]

/-- Run a pipeline.  Its status is that of its last command, or with the option for it that of the
last one that failed. -/
def pipeline (self : Executor) (position : Position) (commands : List Command) : Run Unit := do
  if !(← get).extended then prepare commands
  let shell ← get
  let inPlace := shell.extended && shell.settings.contains (ascii "lastpipe")
  let statuses ← if inPlace then lastInPlace self position commands
    else (← startPipeline self position none commands).mapM Run.waitFor
  let last := (statuses.getLast?).getD 0
  if ← Run.isOn "pipefail" then
    Run.setStatus (((statuses.filter (· ≠ 0)).getLast?).getD 0)
  else Run.setStatus last
  modify fun shell => { shell with statuses }

/-! Processes. -/

/-- Run a command in the background.  It reads nothing. -/
def runInBackground (self : Executor) (command : Command) : Run Unit := do
  let text := if (← get).extended then Printer.command Printer.maximalNesting 0 command else []
  let child ← self.fork do
    Act.modifyProcess fun process => { process with
      ignored := Signal.interrupt :: Signal.quit :: process.ignored }
    match ← Act.openFrom 10 (ascii "/dev/null") { read := true } with
    | .ok number => Act.move number 0
    | .error _ => pure ()
    self.run { last := true } command
  modify fun shell =>
    let number := ((shell.background.map (·.number)).foldl max 0) + 1
    { shell with
      lastBackground := some child
      background := { number, processes := [child], text } :: shell.background }
  Run.setStatus 0

def runSubshell (self : Executor) (position : Position) (body : Command) : Run Unit := do
  if position.last && !(← Run.hasTraps) then
    self.run position body
    throw .exit
  else
    let child ← self.fork (self.run { position with last := true } body)
    Run.setStatus (← Run.waitFor child)

/-- Run a command beside this shell, which can write to it and read from it by the descriptors in an
array. -/
def cooperate (self : Executor) (name : Bytes) (body : Command) : Run Unit := do
  let (reading, given) ← Act.pipe
  let (taken, writing) ← Act.pipe
  let kept ← Act.look fun self world => world.freeDescriptorBelow self 63
  Act.move reading kept
  let other ← Act.look fun self world => world.freeDescriptorBelow self (kept - 3)
  Act.move writing other
  let child ← self.fork do
    Act.close kept
    Act.close other
    Act.move given 1
    Act.move taken 0
    self.run { last := true } body
  Act.close given
  Act.close taken
  Run.setValue name (.ofTexts [.ofNat kept, .ofNat other])
  Run.setVariable (name ++ ascii "_PID") (.ofNat child)
  modify fun shell =>
    let number := ((shell.background.map (·.number)).foldl max 0) + 1
    { shell with
      lastBackground := some child
      background := { number, processes := [child] } :: shell.background }
  Run.setStatus 0

def timed (portable : Bool) (task : Run Unit) : Run Unit := do
  let clock := Act.look fun _ world => world.now
  let started ← clock
  task
  let millis := ((← clock) - started) / 1000000
  let format := (← Run.value? (ascii "TIMEFORMAT")).getD
    (ascii "\nreal\t%3lR\nuser\t%3lU\nsys\t%3lS")
  let format := if portable then ascii "real %2R\nuser %2U\nsys %2S" else format
  if format ≠ [] then
    let _ ← Run.write 2 (Bytes.line (Duration.format millis (format.length + 1) format))

def redirected (self : Executor) (position : Position) (body : Command)
    (redirections : List Redirection) : Run Unit := do
  let resolved ← redirections.mapM (Redirect.resolve self.hooks)
  let (saved, ready) ← Redirect.performAll [] resolved
  if ready then
    (self.run { tested := position.tested } body).followedBy (Redirect.restore saved)
  else
    Redirect.restore saved
    Run.setStatus (if (← get).extended then 1 else 2)

def mayEndShell : Command → Bool
  | .simple _ _ _ _ | .subshell _ | .pipe _ | .arithmetic _ | .condition _ => true
  | _ => false

def announce (self : Executor) (text : Bytes) : Run Unit := do
  if (← get).extended then Simple.trace self (pure text)

def heading (keyword : String) (name : Bytes) (items : Option (List Word)) : Bytes :=
  ascii keyword ++ name ++ (match items with
    | some words => ascii " in" ++ words.flatMap fun word => Ascii.space :: Printer.word word
    | none => [])

def perform (self : Executor) (position : Position) (command : Command) : Run Unit := do
  let tested : Position := { tested := true }
  let first : Position := { tested := position.tested }
  match command with
  | .skip => return ()
  | .group body => self.run position body
  | .time portable body => timed portable (self.run first body)
  | .cooperate name body => cooperate self name body
  | .select name items body =>
      let texts ← match items with
        | some words => expandWords self.hooks words
        | none => pure (← get).arguments
      if texts.isEmpty then Run.setStatus 0
      else
        Run.setStatus 0
        announce self (heading "select " name items)
        inLoop (Menu.offer name texts (turnAgain (self.run first body)) Act.unbounded true)
  | .simple line assignments words redirections =>
      Simple.run self position line assignments words redirections
  | .redirect body redirections => redirected self position body redirections
  | .pipe commands => pipeline self position commands
  | .negate body =>
      self.run tested body
      Run.setStatus (if (← get).status = 0 then 1 else 0)
  | .both left right =>
      self.run tested left
      if (← get).status = 0 then self.run position right
  | .either left right =>
      self.run tested left
      if (← get).status ≠ 0 then self.run position right
  | .sequence left right =>
      self.run first left
      self.run position right
  | .background body => runInBackground self body
  | .subshell body => runSubshell self position body
  | .conditional test yes no =>
      self.run tested test
      if (← get).status = 0 then self.run position yes
      else
        match no with
        | .skip => Run.setStatus 0
        | no => self.run position no
  | .loop expected test body =>
      inLoop (loopWhile (self.run tested test) (self.run first body) expected Act.unbounded 0)
  | .each name items body =>
      let texts ← match items with
        | some words => expandWords self.hooks words
        | none => pure (← get).arguments
      if texts.isEmpty then Run.setStatus 0
      else
        let before := announce self (heading "for " name items)
        inLoop (loopEach name before (self.run first body) texts)
  | .choose subject branches =>
      announce self (ascii "case " ++ Printer.word subject ++ ascii " in")
      choose self position (← expandText self.hooks subject) false branches
  | .define name body =>
      modify fun shell => { shell with
        functions := (name, body) :: shell.functions.filter (·.1 ≠ name) }
      Run.setStatus 0
  | .arithmetic expression =>
      let text ← expandDocument self.hooks expression
      announce self (ascii "(( " ++ text ++ ascii " ))")
      let value ← Expansion.calculate text
      Run.setStatus (if value = 0 then 1 else 0)
  | .count start test next body =>
      let value := fun (word : Word) (empty : Int) => do
        let text ← expandDocument self.hooks word
        if text.all isBlank then pure empty
        else
          announce self (ascii "(( " ++ text ++ ascii " ))")
          Expansion.calculate text
      let _ ← value start 0
      Run.setStatus 0
      let check : Run Unit := do
        Run.setStatus (if (← value test 1) = 0 then 1 else 0)
      let advance : Run Unit := do
        let _ ← value next 0
      inLoop (countLoop check (self.run first body) advance Act.unbounded)
  | .condition condition =>
      let trace := fun (text : Bytes) => announce self (ascii "[[ " ++ text ++ ascii " ]]")
      Run.setStatus (← Conditional.status self.hooks trace condition)
where
  countLoop (check body advance : Run Unit) : Nat → Run Unit
    | 0 => return ()
    | bound + 1 => do
        let before := (← get).status
        check
        if (← get).status = 0 then
          match ← turn body with
          | .again =>
              Executor.keepingStatus advance
              countLoop check body advance bound
          | .over => return ()
        else Run.setStatus before

def disconnect (before : List Nat) : Run Unit := do
  let shell ← get
  if shell.connected.length ≠ before.length then
    for number in shell.connected.take (shell.connected.length - before.length) do
      Act.close number
    modify fun shell => { shell with connected := before }

def isAnnounced : Command → Bool
  | .simple _ _ _ _ | .arithmetic _ | .condition _ | .choose _ _ | .each _ _ _ | .select _ _ _ =>
      true
  | _ => false

/-- Run a command: signals are looked after before and after it, and where that is asked for a
failure ends the shell. -/
def run (self : Executor) (position : Position) (command : Command) : Run Unit := do
  if !(← Run.isOn "noexec") then
    self.handleSignals
    let shell ← get
    if shell.extended && isAnnounced command then
      if shell.trapped.isNone then set { shell with current := command }
      self.runEvent Event.command
    (perform self position command).followedBy (disconnect shell.connected)
    self.handleSignals
    if mayEndShell command then
      modify fun shell => match command with
        | .pipe _ => shell
        | _ => { shell with statuses := [shell.status] }
      if !position.tested && (← get).status != 0 then
        self.runEvent Event.failure
        if ← Run.isOn "errexit" then throw .exit

/-- The executor for commands of a bounded depth. -/
def executor (system : System) : Nat → Executor
  | 0 => { system, run := fun _ _ => Run.fail (ascii "commands are nested too deep") }
  | depth + 1 =>
      { system
        run := fun position command => run (executor system depth) position command }

def maximalDepth : Nat := 100000

end Interpreter

end Rpn.Shell
