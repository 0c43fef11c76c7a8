import Rpn.Shell.Builtin.Condition
import Rpn.Shell.Builtin.Declare
import Rpn.Shell.Builtin.Folders
import Rpn.Shell.Builtin.Input
import Rpn.Shell.Builtin.Printing
import Rpn.Shell.Builtin.Settings
import Rpn.Shell.Builtin.Signals
import Rpn.Shell.Lookup

/-! Simple commands: assignments, redirections, and a program, a function or a built-in command with
its arguments.  Only serves the test environment. -/

namespace Rpn.Shell

open Host

namespace Builtin

def table : List (String × Builtin) :=
  [ (":", succeed), ("true", succeed), ("false", refuse), ("break", leave),
    ("continue", resume), ("return", returnFrom), ("exit", exit), ("eval", evaluate),
    (".", source), ("shift", shift), ("exec", become), ("set", setParameters),
    ("unset", unset), ("export", exportNames), ("readonly", readOnly), ("local", localize),
    ("alias", defineAlias), ("unalias", unalias), ("getopts", getOption), ("cd", changeFolder),
    ("chdir", changeFolder), ("pwd", showFolder), ("umask", setMask), ("trap", trap),
    ("kill", kill), ("wait", wait), ("jobs", jobs), ("fg", noJob "fg"), ("bg", noJob "bg"),
    ("times", times), ("ulimit", limit), ("read", read), ("echo", echo), ("printf", printf),
    ("test", test), ("[", bracket), ("type", type), ("hash", hash) ]

def extendedTable : List (String × Builtin) :=
  [ ("echo", extendedEcho), ("printf", extendedPrintf), ("read", extendedRead),
    ("mapfile", readLines), ("readarray", readLines), ("source", source),
    ("declare", declare), ("typeset", declare), ("local", declareLocal),
    ("export", declareExported), ("readonly", declareReadOnly), ("let", letValues),
    ("shopt", shopt), ("pushd", pushFolder), ("popd", popFolder), ("dirs", showStack),
    ("caller", caller), ("disown", refuse), ("enable", enable), ("history", succeed),
    ("complete", succeed), ("compopt", succeed), ("bind", succeed), ("compgen", complete),
    ("logout", refuse), ("suspend", refuse), ("fc", succeed), ("wait", extendedWait),
    ("jobs", extendedJobs) ]

def find? (shell : State) (name : Bytes) : Option Builtin :=
  let within := fun (table : List (String × Builtin)) =>
    (table.find? fun entry => ascii entry.1 == name).map (·.2)
  if shell.extended then (within extendedTable).or (within table) else within table

end Builtin

namespace Simple

def assigning : List Bytes :=
  ["alias", "export", "readonly", "local", "declare", "typeset"].map ascii

/-- The first arguments of a command, as far as they are needed to know which command it is.  The
answer has the words that are left.  The number bounds how many words there are. -/
def leadingArguments (hooks : Hooks) : List Word → Run (List Bytes × List Word)
  | [] => return ([], [])
  | word :: rest => do
      match ← expandWords hooks [word] with
      | [] => leadingArguments hooks rest
      | found => return (found, rest)

def commandName : List Bytes → Bytes
  | [] => []
  | first :: rest =>
      if first = ascii "command" then commandName (rest.dropWhile (·.head? == some Ascii.minus))
      else first
termination_by words => words.length
decreasing_by
  simp only [List.length_cons]
  exact Nat.lt_succ_of_le (List.dropWhile_sublist _).length_le

/-- All arguments of a command.  Those of the form of an assignment are not divided where the
command assigns them, and of an array only the name is an argument. -/
def arguments (hooks : Hooks) (traceElements : Bytes → List Word → Run Unit) (words : List Word) :
    Run (List Bytes) := do
  let (found, rest) ← leadingArguments hooks words
  let extended := (← get).extended
  let rec go (before : List Bytes) : List Word → Run (List Bytes)
    | [] => return before
    | word :: rest => do
        let assigns := assigning.contains (commandName before)
        let value ←
          match if assigns then Reader.assignment? extended word else none with
          | some assignment =>
              match assignment.value with
              | [.elements words] =>
                  traceElements assignment.name words
                  modify fun shell => { shell with
                    compound := (assignment.name, assignment) :: shell.compound }
                  pure [assignment.name]
              | _ => pure [← assignedText hooks assignment]
          | none => expandWords hooks [word]
        go (before ++ value) rest
  go found rest
where
  assignedText (hooks : Hooks) (assignment : Assignment) : Run Bytes := do
    let index ← match assignment.index with
      | [] => pure []
      | index => pure (Ascii.openBracket :: (← expandText hooks index) ++ [Ascii.closeBracket])
    return assignment.name ++ index ++ (if assignment.adding then ascii "+=" else ascii "=") ++
      (← expandAssigned hooks assignment.value)

/-! Assignments. -/

def assignForCommand (hooks : Hooks) (assignment : Assignment) : Run Unit := do
  Run.hideVariable assignment.name
  Assign.perform hooks assignment
  modify fun shell => { shell with
    known := shell.known.modify assignment.name fun entry => { entry with exported := true } }

/-! Running. -/

def call (self : Executor) (position : Position) (name : Bytes) (body : Command)
    (arguments : List Bytes) : Run Unit := do
  let before ← get
  let isHidden := fun (signal : Nat) =>
    Builtin.eventNames.any (·.2 == signal) && !Executor.isKept before signal
  let hidden := before.traps.filter (isHidden ·.1)
  set { before with
    arguments, loops := 0, callers := name :: before.callers
    lines := before.line :: before.lines
    traps := before.traps.filter (!isHidden ·.1) }
  let after : Run Unit := do
    if before.extended then self.runEvent Event.return
    modify fun shell => { shell with
      arguments := before.arguments, loops := before.loops, callers := before.callers
      lines := before.lines, line := before.line
      traps := shell.traps ++ hidden.filter fun (signal, _) =>
        !shell.traps.any (·.1 == signal) }
  Run.inFrame
    ((Builtin.catchingReturn (self.run { tested := position.tested } body)).followedBy after)

def runProgram (self : Executor) (position : Position) (path : Bytes) (arguments : List Bytes)
    (searched? : Option Bytes) : Run Unit := do
  let inPlace := position.last && !(← Run.hasTraps)
  if inPlace && (← get).extended then lowerLevel
  let become : Run Unit := do
    let shell ← get
    let environment := if shell.extended then
        some (shell.environment ++ [ascii "_=" ++ path])
      else none
    self.become arguments searched? none environment
  if inPlace then become
  else
    let child ← self.fork become
    Run.setStatus (← Run.waitFor child)
where
  /-- A program in the place of a shell is one level less deep than in the shell. -/
  lowerLevel : Run Unit :=
    modify fun shell =>
      match (shell.known.text? (ascii "SHLVL")).bind Bytes.toNat? with
      | some level => { shell with
          known := shell.known.modify (ascii "SHLVL") fun entry => { entry with
            value := some (.text (.ofNat (level - 1))) } }
      | none => shell

def guarded (task : Run Nat) : Run Unit := do
  try Run.setStatus (← task)
  catch stop =>
    match stop with
    | .fault => return ()
    | stop => throw stop

/-- How a command is to be run: without functions after `command`, and searched for in a path of
its own. -/
structure Invocation where
  arguments : List Bytes
  plain : Bool := false
  builtin : Bool := false
  searched : Option Bytes := none

def standardPath : Bytes := ascii "/usr/local/sbin:/usr/local/bin:/usr/sbin:/usr/bin:/sbin:/bin"

/-- Take `command` and its options off the arguments, unless it asks what a command is, and in the
extended language `builtin` too.  The number bounds how often. -/
def unwrap (extended : Bool) : Nat → Invocation → Invocation
  | 0, invocation => invocation
  | bound + 1, invocation =>
      match invocation.arguments with
      | first :: rest =>
          if first = ascii "builtin" ∧ extended then
            let rest := if rest.head? = some (ascii "--") then rest.tail else rest
            if rest = [] then invocation
            else unwrap extended bound { arguments := rest, plain := true, builtin := true }
          else if first = ascii "command" then
            let options := rest.takeWhile fun word => word.head? == some Ascii.minus
            let letters := options.flatten
            let isQuestion := letters.contains 118 || letters.contains 86
            let rest := rest.drop options.length
            if isQuestion ∨ rest = [] then invocation
            else
              let searched := if letters.contains 112 then some standardPath
                else invocation.searched
              unwrap extended bound { arguments := rest, plain := true, searched }
          else invocation
      | [] => invocation

def question : Builtin := fun _ _ arguments => do
  let options := arguments.takeWhile fun word => word.head? == some Ascii.minus
  let letters := options.flatten
  match arguments.drop options.length with
  | [] => return 0
  | names =>
      if letters.contains 86 then Builtin.describe (names.headD [])
      else if (← get).extended then
        let statuses ← names.mapM Builtin.identify
        return if statuses.all (· ≠ 0) then 1 else 0
      else Builtin.identify (names.headD [])

/-- What stands before a command that is shown.  In the extended language its first byte is
repeated for texts that are run inside of others. -/
def traceMark (self : Executor) : Run Bytes := do
  let shell ← get
  let text := (shell.known.text? (ascii "PS4")).getD (ascii "+ ")
  let repeated := fun (mark : Bytes) =>
    if shell.extended then List.replicate shell.indirection (mark.headD 0) ++ mark else mark
  if text.all fun byte => !(ascii "$`\\").contains byte then return repeated text
  else
    let xtrace := ascii "xtrace"
    modify fun shell => { shell with options := shell.options.filter (· ≠ xtrace) }
    let mark ← expandDocument self.hooks (← Executor.parseDocument text)
    modify fun now => { now with options := shell.options, status := shell.status }
    return repeated mark

def shownWord (word : Bytes) : Bytes :=
  if Display.hasMeaning word then
    Ascii.singleQuote :: (word.flatMap fun byte =>
      if byte = Ascii.singleQuote then ascii "'\\''" else [byte]) ++ [Ascii.singleQuote]
  else if word.all Parameter.isPrintable then word
  else Parameter.quotedForm word

def trace (self : Executor) (text : Run Bytes) (errors : Nat := 2) : Run Unit := do
  if ← Run.isOn "xtrace" then
    let _ ← Run.write errors (Bytes.line ((← traceMark self) ++ (← text)))

def shownAssignment (shell : State) (assignment : Assignment) : Bytes :=
  match assignment.value with
  | [.elements _] => Printer.assignment assignment
  | _ =>
      let text := (shell.known.text? assignment.name).getD []
      assignment.name ++ Ascii.equals ::
        (if shell.extended ∧ text ≠ [] then shownWord text else text)

/-- Show a command before it runs and after it has its variables.  It is shown where messages went
before its redirections. -/
def showCommand (self : Executor) (errors : Nat) (assignments : List Assignment)
    (arguments : List Bytes) : Run Unit := do
  let shell ← get
  let shown := assignments.map (shownAssignment shell)
  if shell.extended then
    for text in shown do trace self (pure text) errors
    if arguments ≠ [] then
      trace self (pure (Builtin.joinedWords (arguments.map shownWord))) errors
  else trace self (pure (Builtin.joinedWords (shown ++ arguments))) errors

def traceElements (self : Executor) (name : Bytes) (words : List Word) : Run Unit := do
  trace self do
    let texts ← expandWords self.hooks words
    return name ++ ascii "=(" ++ Builtin.joinedWords (texts.map Parameter.quotedForm) ++ ascii ")"

def notFound (name : Bytes) (status : Nat) : Run Unit := do
  Run.complain (name ++ ascii ": not found")
  Run.setStatus status

def invoke (self : Executor) (position : Position) (errors : Nat)
    (assignments : List Assignment) (invocation : Invocation) : Run Unit := do
  let hooks := self.hooks
  let showCommand := showCommand self errors
  let shell ← get
  match invocation.arguments with
  | [] =>
      for assignment in assignments do
        Assign.perform hooks assignment
        if shell.extended then showCommand [assignment] []
      if !shell.extended then showCommand assignments []
      Run.setStatus ((← get).substituted.getD 0)
  | name :: arguments =>
      let temporarily := fun (task : Run Unit) =>
        if assignments.isEmpty then task
        else Run.inFrame do
          for assignment in assignments do assignForCommand hooks assignment
          task
      let shownArguments := name :: arguments
      let found ← Lookup.command name (!invocation.plain) invocation.searched
      let found : Meaning := match found, invocation.builtin with
        | .builtin special, _ => .builtin special
        | _, true => .missing 1
        | found, false => found
      match found with
      | .function body =>
          temporarily do
            showCommand assignments shownArguments
            call self position name body arguments
      | .builtin special =>
          let run := if name = ascii "command" then some question
            else Builtin.find? shell name
          match run with
          | none => notFound name 127
          | some run =>
              if special && !invocation.plain && !shell.extended then
                for assignment in assignments do
                  Assign.perform hooks assignment
                  if name = ascii "exec" ∧ arguments ≠ [] then
                    modify fun shell => { shell with
                      known := shell.known.modify assignment.name fun entry =>
                        { entry with exported := true } }
                showCommand assignments shownArguments
                Run.setStatus (← run self position arguments)
              else
                temporarily do
                  showCommand assignments shownArguments
                  guarded (run self position arguments)
      | .file path =>
          temporarily do
            showCommand assignments shownArguments
            Builtin.remember name path
            runProgram self position path (name :: arguments) invocation.searched
      | .missing status =>
          temporarily do
            showCommand assignments shownArguments
            notFound name status
      | _ => return ()

def run (self : Executor) (position : Position) (line : Nat) (assignments : List Assignment)
    (words : List Word) (redirections : List Redirection) : Run Unit := do
  let hooks := self.hooks
  modify fun shell => { shell with line, substituted := none, compound := [] }
  let found ← arguments hooks (traceElements self) words
  let invocation := unwrap (← get).extended found.length { arguments := found }
  let name := invocation.arguments.headD []
  let resolved ← redirections.mapM (Redirect.resolve hooks)
  let (saved, ready) ← Redirect.performAll [] resolved
  let errors := ((saved.lookup 2).bind fun kept => kept).getD 2
  let shell ← get
  let isBuiltin := (shell.functions.lookup name).isNone && !invocation.arguments.isEmpty
  let special := isBuiltin && Lookup.isSpecial name && !invocation.plain && !shell.extended
  if !ready then
    Redirect.restore saved
    Run.setStatus (if shell.extended then 1 else 2)
    if special then throw .fault
  else if isBuiltin && name == ascii "exec" then
    invoke self position errors assignments invocation
    Redirect.discard saved
  else
    (invoke self position errors assignments invocation).followedBy (Redirect.restore saved)
  if shell.extended then
    modify fun shell => { shell with
      known := shell.known.modify (ascii "_") fun entry => { entry with
        value := some (.text ((found.getLast?).getD [])) } }

end Simple

end Rpn.Shell
