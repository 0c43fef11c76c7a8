import Rpn.Host.Task
import Rpn.Shell.Glob
import Rpn.Shell.Printer
import Rpn.Shell.Reader
import Rpn.Shell.Variable

/-! What a shell knows while it runs commands.  Part of the test environment. -/

namespace Rpn.Shell

open Host

/-- Why control leaves a command early.  A fault ends the shell, unless it arises in a command
that may fail by itself. -/
inductive Stop where
  | exit
  | fault
  | leave (levels : Nat)
  | resume (levels : Nat)
  | return
  deriving DecidableEq, Repr

/-! Events that commands can be set for like signals. -/

def Event.failure : Nat := 1001

def Event.command : Nat := 1002

def Event.return : Nat := 1003

/-- A command in the background: its number, its processes in the order in which they were
started, and what it is. -/
structure Background where
  number : Nat
  processes : List Nat
  text : Bytes := []

/-- What a function hides while it runs: variables, and the options if that was asked for. -/
structure Frame where
  hidden : List (Bytes × Option Variable) := []
  options : Option (List Bytes) := none

/-- `extended` is the language with arrays.  `number` is the process that `$$` names, which a
subshell inherits; `level` counts subshells.  `options` are the names of those that are on.
`traps` are the commands for signals; number 0 is the end of the shell.  Signals that were ignored
when the shell began are `immovable`.  `documents` are the
here-documents of commands that were read.  `substituted` is the status of the last command
substitution of the current command.  `saved` is, for each function that runs, what it hides.  `folder` is the path under which the current folder was reached.
`trapped` is the status from before the command for a signal that runs.  `statuses` are those of
the commands of the last pipeline.  `lines` are those where functions were called, and `sources` the
files that are read.  `compound` are the assignments of arrays among the arguments of a command that
declares variables.  `started` is the time when the shell began.  `indirection` counts the texts that
are run inside of others, `current` is the command that runs, and `events` are those whose commands
run.  `shared` are the names of the functions that other shells find.  `connected` are the descriptors that lead to commands which run beside the current one, and
`disabled` the built-in commands that are not used.  `group` is the number of the user's group. -/
structure State where
  extended : Bool := false
  number : Nat
  level : Nat := 0
  name : Bytes
  arguments : List Bytes := []
  known : Variables := []
  functions : List (Bytes × Command) := []
  aliases : List (Bytes × Bytes) := []
  options : List Bytes := []
  settings : List Bytes := []
  status : Nat := 0
  substituted : Option Nat := none
  background : List Background := []
  lastBackground : Option Nat := none
  ended : List (Nat × Nat) := []
  traps : List (Nat × Bytes) := []
  immovable : List Nat := []
  saved : List Frame := []
  loops : Nat := 0
  callers : List Bytes := []
  sourced : Nat := 0
  optionIndex : Nat := 1
  optionOffset : Nat := 0
  documents : List (Nat × Word) := []
  fresh : Nat := 0
  line : Nat := 1
  hashed : List (Bytes × Bytes) := []
  folder : Bytes := []
  folders : List Bytes := []
  limits : List (UInt8 × Bytes) := []
  trapped : Option Nat := none
  statuses : List Nat := [0]
  lines : List Nat := []
  sources : List Bytes := []
  compound : List (Bytes × Assignment) := []
  started : Nat := 0
  indirection : Nat := 0
  current : Command := .skip
  events : List Nat := []
  shared : List Bytes := []
  connected : List Nat := []
  disabled : List Bytes := []
  group : Nat := 0

abbrev Run := Task State Stop

namespace State

def sharedFunction (name : Bytes) (body : Command) : Bytes :=
  let lines := (Printer.function name body).splitOn Ascii.newline
  let shorter := (lines.drop 2).map fun line =>
    let blanks := line.takeWhile (· == Ascii.space)
    (if blanks = [] then [] else [Ascii.space]) ++ line.drop blanks.length
  ascii "BASH_FUNC_" ++ name ++ ascii "%%=() \x7b " ++
    ((shorter.dropLast).intersperse [Ascii.newline]).flatten

def environment (shell : State) : List Bytes :=
  if shell.extended then
    let layers := shell.saved.map fun frame => frame.hidden.map (·.1)
    let functions := shell.shared.filterMap fun name =>
      (shell.functions.lookup name).map (sharedFunction name)
    shell.known.exportedInLayers layers ++ functions
  else shell.known.exported

end State

namespace Run

def setStatus (status : Nat) : Run Unit :=
  modify fun shell => { shell with status }

def isOn (name : String) : Run Bool :=
  return (← get).options.contains (ascii name)

/-- Write to a descriptor.  The answer is whether all of it was written. -/
def write (number : Nat) (text : Bytes) : Run Bool := do
  match ← Act.write number text with
  | .ok () => return true
  | .error _ => return false

def complain (text : Bytes) : Run Unit := do
  let shell ← get
  let place := ascii ": " ++
    (if shell.extended then ascii "line " else []) ++ .ofNat shell.line ++ ascii ": "
  let _ ← write 2 (shell.name ++ place ++ text).line

def fail {α : Type} (text : Bytes) (status : Nat := 2) : Run α := do
  complain text
  setStatus status
  throw .fault

def abort {α : Type} (text : Bytes) : Run α := do
  complain text
  let shell ← get
  setStatus (if !shell.extended then 2
    else if shell.level = 0 ∧ shell.options.contains (ascii "commands") then 127 else 1)
  throw (if shell.extended then .exit else .fault)

/-! Variables. -/

def value? (name : Bytes) : Run (Option Bytes) :=
  return (← get).known.text? name

def recased (entry : Variable) (text : Bytes) : Bytes :=
  match entry.recase with
  | none => text
  | some true => text.map Signal.upper
  | some false => text.map fun byte => if 65 ≤ byte && byte ≤ 90 then byte + 32 else byte

def checkWritable (name : Bytes) : Run Unit := do
  let shell ← get
  if ((shell.known.get? name).map (·.readOnly)).getD false then
    if shell.extended then
      complain (name ++ ascii ": readonly variable")
      setStatus 1
      throw .fault
    else fail (name ++ ascii ": is read only")

/-- Set a variable to a value.  A reference to an element is followed by who sets elements. -/
def setValue (name : Bytes) (value : Value) : Run Unit := do
  let (name, _) := (← get).known.resolve name
  checkWritable name
  let exported ← isOn "allexport"
  modify fun shell => { shell with
    known := shell.known.modify name fun entry => { entry with
      value := some (match value with
        | .text text => .text (recased entry text)
        | .list elements => .list (elements.map fun (number, text) => (number, recased entry text))
        | .table elements => .table (elements.map fun (key, text) => (key, recased entry text)))
      shape := value.shape
      exported := entry.exported || exported } }

def setVariable (name text : Bytes) : Run Unit := do
  let known := (← get).known
  let (name, subscript) := known.resolve name
  let entry := (known.get? name).getD {}
  match entry.value, entry.shape, subscript with
  | some (.list elements), _, key =>
      setValue name (.list (Value.insert ((key.bind Bytes.toNat?).getD 0) text elements))
  | some (.table elements), _, key =>
      setValue name (.table (Value.put (key.getD (ascii "0")) text elements))
  | _, .table, key => setValue name (.table [(key.getD (ascii "0"), text)])
  | _, .list, key => setValue name (.list [((key.bind Bytes.toNat?).getD 0, text)])
  | _, .text, some key => setValue name (.list [((Bytes.toNat? key).getD 0, text)])
  | _, .text, none => setValue name (.text text)

def unsetVariable (name : Bytes) : Run Unit := do
  let (name, _) := (← get).known.resolve name
  checkWritable name
  modify fun shell => { shell with known := shell.known.erase name }

def hideVariable (name : Bytes) : Run Unit :=
  modify fun shell =>
    match shell.saved with
    | [] => shell
    | frame :: others =>
        if frame.hidden.any (·.1 == name) then shell
        else
          let hidden := (name, shell.known.get? name) :: frame.hidden
          { shell with saved := { frame with hidden } :: others }

def keepOptions : Run Unit :=
  modify fun shell =>
    match shell.saved with
    | [] => shell
    | frame :: others =>
        let options := frame.options.or (some shell.options)
        { shell with saved := { frame with options } :: others }

def restoreFrame : Run Unit :=
  modify fun shell =>
    match shell.saved with
    | [] => shell
    | frame :: saved =>
        let known := frame.hidden.foldl (fun known (name, old) =>
          match old with
          | some entry => known.put name entry
          | none => known.erase name) shell.known
        { shell with saved, known, options := frame.options.getD shell.options }

def inFrame {α : Type} (task : Run α) : Run α := do
  modify fun shell => { shell with saved := {} :: shell.saved }
  task.followedBy restoreFrame

def indirectly (task : Run Unit) : Run Unit := do
  modify fun shell => { shell with indirection := shell.indirection + 1 }
  task.followedBy (modify fun shell => { shell with indirection := shell.indirection - 1 })

/-! Settings. -/

def dialect : Run Pattern.Dialect := do
  let shell ← get
  return { caret := shell.extended, groups := shell.settings.contains (ascii "extglob")
           folded := shell.settings.contains (ascii "nocasematch") }

def globManner : Run Glob.Manner := do
  let shell ← get
  let isSet := fun (name : String) => shell.settings.contains (ascii name)
  let dialect ← dialect
  return { dialect := { dialect with folded := isSet "nocaseglob" }, hidden := isSet "dotglob"
           links := !shell.extended, deep := isSet "globstar" }

/-! The separators of fields. -/

def fieldSeparators : Run Bytes :=
  return ((← get).known.text? (ascii "IFS")).getD (ascii " \t\n")

def joiner : Run Bytes :=
  return (← fieldSeparators).take 1

/-! Signals. -/

def trap? (signal : Nat) : Run (Option Bytes) :=
  return (← get).traps.lookup signal

def hasTraps : Run Bool :=
  return (← get).traps.any (·.2 ≠ [])

end Run

end Rpn.Shell
