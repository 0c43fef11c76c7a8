import Rpn.Shell.Executor

/-! Built-in commands that steer what runs next.  Only serves the test environment. -/

namespace Rpn.Shell

open Host

abbrev Builtin := Executor → Position → List Bytes → Run Nat

namespace Builtin

def natural (text : Bytes) : Run Nat := do
  match Bytes.toNat? text with
  | some value => return value
  | none => Run.fail (ascii "Illegal number: " ++ text)

def succeed : Builtin := fun _ _ _ => return 0

def refuse : Builtin := fun _ _ _ => return 1

def levels (arguments : List Bytes) : Run (Option Nat) := do
  let wanted ← match arguments with
    | [] => pure 1
    | text :: _ => natural text
  if wanted = 0 then Run.fail (ascii "Illegal number: 0")
  else
    match (← get).loops with
    | 0 => return none
    | loops => return some (min wanted loops)

def leave : Builtin := fun _ _ arguments => do
  match ← levels arguments with
  | some count =>
      Run.setStatus 0
      throw (.leave count)
  | none => return 0

def resume : Builtin := fun _ _ arguments => do
  match ← levels arguments with
  | some count =>
      Run.setStatus 0
      throw (.resume count)
  | none => return 0

def requestedStatus (arguments : List Bytes) : Run Nat := do
  match arguments with
  | text :: _ =>
      if (← get).extended then
        match Arithmetic.number? false text with
        | some value => return (value % 256).toNat
        | none => Run.fail (text ++ ascii ": numeric argument required")
      else natural text
  | [] => return (← get).status

def returnFrom : Builtin := fun _ _ arguments => do
  let shell ← get
  if shell.extended ∧ shell.callers = [] then
    Run.fail (ascii "return: can only `return' from a function or sourced script")
  Run.setStatus (← requestedStatus arguments)
  throw .return

/-- Without a status of its own, the command for a signal ends the shell with the status from
before. -/
def exit : Builtin := fun _ _ arguments => do
  let status ← match arguments, (← get).trapped with
    | [], some status => pure status
    | arguments, _ => requestedStatus arguments
  Run.setStatus status
  throw .exit

def joinedWords (words : List Bytes) : Bytes :=
  (words.intersperse [Ascii.space]).flatten

def evaluate : Builtin := fun self position arguments => do
  let arguments := if arguments.head? = some (ascii "--") then arguments.tail else arguments
  Run.setStatus 0
  Run.indirectly (self.text { tested := position.tested } (joinedWords arguments))
  return (← get).status

def catchingReturn (task : Run Unit) : Run Unit := do
  try task
  catch stop =>
    match stop with
    | .return => return ()
    | stop => throw stop

def findFile (name : Bytes) : Run (Option Bytes) := do
  if name.contains Ascii.slash then return some name
  else
    let shell ← get
    let searched := (shell.known.text? (ascii "PATH")).getD []
    let places := System.candidates searched name
    let places := if shell.extended then places ++ [name] else places
    places.findM? fun place => do
      match ← Act.examine place with
      | .ok (_, { content := .file _, .. }) => return true
      | _ => return false

def source : Builtin := fun self position arguments => do
  let arguments := if arguments.head? = some (ascii "--") then arguments.tail else arguments
  match arguments with
  | [] => return 0
  | name :: rest =>
      let status := if (← get).extended then 1 else 2
      let text ← match ← findFile name with
        | none => Run.fail (ascii ".: " ++ name ++ ascii ": not found") status
        | some place =>
            match ← Act.readPath place with
            | .ok text => pure text
            | .error fault =>
                Run.fail (ascii ".: cannot open " ++ name ++ ascii ": " ++ fault.message) status
      let before ← get
      if before.extended ∧ rest ≠ [] then
        modify fun shell => { shell with arguments := rest }
      Run.setStatus 0
      modify fun shell => { shell with
        sourced := shell.sourced + 1
        sources := name :: shell.sources
        lines := shell.line :: shell.lines
        callers := if shell.extended then ascii "source" :: shell.callers else shell.callers }
      let after : Run Unit := modify fun shell => { shell with
        sourced := before.sourced, sources := before.sources, lines := before.lines
        callers := before.callers, line := before.line
        arguments := if before.extended ∧ rest ≠ [] then before.arguments
          else shell.arguments }
      let task := catchingReturn (self.text { tested := position.tested } text)
      (Run.indirectly task).followedBy after
      self.runEvent Event.return
      return (← get).status

def shift : Builtin := fun _ _ arguments => do
  let count ← match arguments with
    | [] => pure 1
    | text :: _ => natural text
  let shell ← get
  if shell.arguments.length < count then
    if shell.extended then return 1 else Run.fail (ascii "shift: can't shift that many")
  else
    set { shell with arguments := shell.arguments.drop count }
    return 0

/-- How another program is begun: under a name of its own, with an environment of its own, and as
the first one of a session. -/
structure BecomeOptions where
  called : Option Bytes := none
  emptied : Bool := false
  login : Bool := false

def becomeOptions (options : BecomeOptions) : Nat → List Bytes → BecomeOptions × List Bytes
  | 0, words => (options, words)
  | _, [] => (options, [])
  | bound + 1, word :: rest =>
      match word with
      | [Ascii.minus, Ascii.minus] => (options, rest)
      | Ascii.minus :: letter :: more =>
          let again := if more = [] then rest else (Ascii.minus :: more) :: rest
          if letter = 99 then becomeOptions { options with emptied := true } bound again
          else if letter = 108 then becomeOptions { options with login := true } bound again
          else if letter = 97 then
            let (name, rest) := if more = [] then (rest.headD [], rest.tail) else (more, rest)
            becomeOptions { options with called := some name } bound rest
          else (options, word :: rest)
      | _ => (options, word :: rest)

def become : Builtin := fun self _ arguments => do
  let shell ← get
  let (options, arguments) :=
    if shell.extended then becomeOptions {} (arguments.flatten.length + 1) arguments
    else ({}, if arguments.head? = some (ascii "--") then arguments.tail else arguments)
  match arguments with
  | [] => return 0
  | name :: _ =>
      let called := options.called.getD name
      if shell.extended then
        match (shell.known.text? (ascii "SHLVL")).bind Bytes.toNat? with
        | some level =>
            set { shell with
              known := shell.known.modify (ascii "SHLVL") fun entry => { entry with
                value := some (.text (.ofNat (level - 1))) } }
        | none => pure ()
      self.become arguments none
        (some (if options.login then Ascii.minus :: called else called))
        (if options.emptied then some [] else none)
      return 126

def caller : Builtin := fun _ _ arguments => do
  let shell ← get
  match arguments with
  | [] =>
      match shell.lines with
      | [] => return 1
      | line :: _ =>
          let file := shell.sources.headD (ascii "NULL")
          if ← Run.write 1 (Bytes.line (Bytes.ofNat line ++ Ascii.space :: file)) then return 0
          else return 1
  | text :: _ =>
      let index ← natural text
      let isKnown := index + 1 < shell.callers.length || Parameter.isScript shell
      match if isKnown then shell.lines[index]? else none with
      | none => return 1
      | some line =>
          let function := shell.callers.getD (index + 1) (ascii "main")
          let file := shell.sources.headD (ascii "environment")
          if ← Run.write 1 (Bytes.line (joinedWords [Bytes.ofNat line, function, file])) then
            return 0
          else return 1

end Builtin

end Rpn.Shell
