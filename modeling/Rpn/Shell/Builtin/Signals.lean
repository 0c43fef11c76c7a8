import Rpn.Shell.Builtin.Variables

/-! Built-in commands about signals and processes.  Only serves the test environment. -/

namespace Rpn.Shell.Builtin

open Host

def eventNames : List (Bytes × Nat) :=
  [("ERR", Event.failure), ("DEBUG", Event.command), ("RETURN", Event.return)].map
    fun (name, number) => (ascii name, number)

/-- The signal that a text names.  Number 0 is the end of the shell. -/
def signalOf? (extended : Bool) (text : Bytes) : Option Nat :=
  match Bytes.toNat? text with
  | some number => if number ≤ Signal.count then some number else none
  | none =>
      let upper := text.map Signal.upper
      let plain := if extended ∧ (ascii "SIG").isPrefixOf upper then upper.drop 3 else upper
      if plain = ascii "EXIT" then some 0
      else
        match Signal.ofName? plain with
        | some signal => some signal
        | none => if extended then eventNames.lookup plain else none

def signalName (signal : Nat) : Bytes :=
  match eventNames.find? (·.2 == signal) with
  | some (name, _) => name
  | none => Signal.name signal

def applyTrap (signal : Nat) (action : Option Bytes) : Run Unit := do
  if signal ≠ 0 ∧ signal ≤ Signal.count ∧ !(← get).immovable.contains signal then
    Act.modifyProcess fun process =>
      let ignored := process.ignored.filter (· ≠ signal)
      let caught := process.caught.filter (· ≠ signal)
      match action with
      | none => { process with ignored, caught }
      | some [] => { process with ignored := signal :: ignored, caught }
      | some _ => { process with ignored, caught := signal :: caught }

def setTrap (signal : Nat) (action : Option Bytes) : Run Unit := do
  modify fun shell =>
    let others := shell.traps.filter (·.1 ≠ signal)
    { shell with traps := match action with
        | some text => (signal, text) :: others
        | none => others }
  applyTrap signal action

def trapListing (only : List Nat := []) : Run Nat := do
  let shell ← get
  let chosen := shell.traps.filter fun (signal, _) => only.isEmpty || only.contains signal
  let sorted := chosen.mergeSort fun left right => left.1 ≤ right.1
  print (sorted.flatMap fun (signal, action) =>
    let name := if shell.extended ∧ 0 < signal ∧ signal < 1000 then
        ascii "SIG" ++ signalName signal
      else signalName signal
    let text := if shell.extended then Parameter.quotedForm action else quoted action
    Bytes.line (ascii "trap -- " ++ text ++ Ascii.space :: name))

def trap : Builtin := fun _ _ arguments => do
  let shell ← get
  let (letters, words) ← optionLetters (if shell.extended then "lp" else "") "trap" arguments
  match words with
  | [] => if letters.contains 108 then return 0 else trapListing
  | first :: rest =>
    if letters.contains 112 then trapListing (words.filterMap (signalOf? shell.extended))
    else
      let resets := rest = [] ∨ (Bytes.toNat? first).isSome
      let action := if resets ∨ first = [Ascii.minus] then none else some first
      let names := if resets then words else rest
      let rec go : List Bytes → Run Nat
        | [] => return 0
        | name :: others => do
            match signalOf? shell.extended name with
            | some signal =>
                setTrap signal action
                go others
            | none =>
                let _ ← Run.write 2
                  (Bytes.line (ascii "trap: " ++ name ++ ascii ": bad trap"))
                return 1
      go names

/-! Sending signals. -/

def processOf (text : Bytes) : Run Nat := do
  match text with
  | Ascii.percent :: rest =>
      let shell ← get
      let chosen := match Bytes.toNat? rest with
        | some number => shell.background.find? fun (entry : Background) => entry.number == number
        | none => shell.background.head?
      match chosen.bind (·.processes.getLast?) with
      | some process => return process
      | none => Run.fail (ascii "No such job: " ++ text)
  | text => natural text

def listSignals : List Bytes → Run Nat
  | [] => print ((ascii "0").line ++
      ((List.range Signal.count).flatMap fun index => Bytes.line (Signal.name (index + 1))))
  | text :: _ => do
      let shell ← get
      let refused : Run Nat :=
        Run.fail (ascii "kill: invalid signal number or exit status: " ++ text)
          (if shell.extended then 1 else 2)
      match Bytes.toNat? text, shell.extended with
      | none, true =>
          match signalOf? true text with
          | some signal => print (Bytes.line (Bytes.ofNat signal))
          | none => refused
      | none, false => natural text
      | some number, _ =>
          let signal := if 128 < number then number - 128 else number
          if 0 < signal ∧ signal ≤ Signal.count then print (Bytes.line (Signal.name signal))
          else refused

def sendTo (signal : Nat) (targets : List Bytes) : Run Nat := do
  let statuses ← targets.mapM fun target => do
    let process ← processOf target
    match ← Act.signal process signal with
    | .ok () => return 0
    | .error fault =>
        Run.complain (ascii "kill: " ++ fault.message ++ [Ascii.newline])
        return 1
  return if statuses.any (· ≠ 0) then 1 else 0

def kill : Builtin := fun _ _ arguments => do
  let extended := (← get).extended
  let usage : Run Nat := Run.fail (ascii "Usage: kill [-s sigspec | -signum | -sigspec] [pid | job]...")
  match arguments with
  | [] => usage
  | first :: rest =>
      match first with
      | Ascii.minus :: text =>
          match signalOf? extended text with
          | some signal => if rest = [] then usage else sendTo signal rest
          | none =>
              if text = ascii "l" ∨ text = ascii "L" then listSignals rest
              else if text = [Ascii.minus] then sendTo Signal.terminate rest
              else if text.head? = some 115 ∨ text.head? = some 110 then
                let (name, targets) := match text.drop 1, rest with
                  | [], name :: targets => (name, targets)
                  | name, targets => (name, targets)
                match signalOf? extended name with
                | some signal => if targets = [] then usage else sendTo signal targets
                | none => Run.fail (ascii "kill: invalid signal number or name: " ++ name)
              else Run.fail (ascii "kill: Illegal option " ++ first)
      | _ => sendTo Signal.terminate arguments

/-! Waiting. -/

def noteEnd (process status : Nat) : Run Unit :=
  modify fun shell => { shell with
    ended := (process, status) :: shell.ended.filter (·.1 ≠ process)
    background := shell.background.filterMap fun entry =>
      let processes := entry.processes.filter (· ≠ process)
      if processes = [] then none else some { entry with processes } }

/-- Wait for a process, or for a signal that the shell catches.  With `told` it is said if a signal
ended the process. -/
def awaitProcess (process : Nat) (told : Bool := false) : Run (Option Nat) := do
  match (← get).ended.lookup process with
  | some status => return some status
  | none =>
      match ← Act.waitInterruptibly process with
      | .ended ending =>
          if told && !(← get).extended then Run.noteEnding ending
          noteEnd process (statusOf ending)
          return some (statusOf ending)
      | .interrupted => return none
      | .noChild => return some 127

def interruptedStatus : Run Nat := do
  let received := (← Act.process).received
  return 128 + received.headD 0

def waitAll : Nat → Run Nat
  | 0 => return 0
  | bound + 1 => do
      match (← get).background.getLast? with
      | none => return 0
      | some entry =>
          match entry.processes with
          | [] => return 0
          | process :: _ =>
              match ← awaitProcess process with
              | some _ => waitAll bound
              | none => interruptedStatus

def wait : Builtin := fun _ _ arguments => do
  match arguments with
  | [] =>
      let count := ((← get).background.map (·.processes.length)).foldl (· + ·) 0
      waitAll (count + 1)
  | arguments => waitEach 0 arguments
where
  waitEach (status : Nat) : List Bytes → Run Nat
    | [] => return status
    | text :: rest => do
        match ← awaitProcess (← processOf text) true with
        | some status => waitEach status rest
        | none => interruptedStatus

def jobs : Builtin := fun _ _ arguments => do
  let shell ← get
  let asNumbers := arguments.contains (ascii "-p")
  let lines ← shell.background.reverse.mapIdxM fun index entry => do
    let last := entry.processes.getLastD 0
    if asNumbers then return Bytes.line (.ofNat last)
    else
      let mark := if index + 1 = shell.background.length then ascii "+" else ascii "-"
      return Bytes.line
        (ascii "[" ++ .ofNat entry.number ++ ascii "] " ++ mark ++ ascii " Running")
  print lines.flatten

/-! Waiting and the commands in the background in the extended language. -/

def waitNext (processes : List Nat) : Run Nat := do
  match processes with
  | [] => return 127
  | processes =>
      let first ← Act.await fun _ world =>
        match processes.find? fun number => (world.process number).ended.isSome with
        | some number => some (number, world)
        | none => none
      return ((← awaitProcess first).getD 0)

def extendedWait : Builtin := fun self position arguments => do
  let options := arguments.takeWhile fun word => word.head? == some Ascii.minus
  let letters := options.flatten
  let words := arguments.drop options.length
  if letters.contains 110 then
    let chosen ← words.mapM processOf
    let all := ((← get).background.flatMap (·.processes)).reverse
    waitNext (if words = [] then all else chosen)
  else wait self position words

def reapBackground : Run Unit := do
  let shell ← get
  let processes := shell.background.flatMap (·.processes)
  let ended ← Act.look fun _ world =>
    processes.filter fun number => (world.process number).ended.isSome
  for number in ended do
    let _ ← awaitProcess number

def extendedJobs : Builtin := fun _ _ arguments => do
  reapBackground
  let shell ← get
  let (letters, words) ← optionLetters "lnprsx" "jobs" arguments
  let all := shell.background.reverse
  let count := all.length
  let shown := all.mapIdx fun index entry =>
    let last := entry.processes.getLastD 0
    let mark := if index + 1 = count then ascii "+" else if index + 2 = count then ascii "-"
      else ascii " "
    let isChosen := words.isEmpty ||
      words.any fun word => word.drop 1 == Bytes.ofNat entry.number
    if !isChosen ∨ letters.contains 115 then []
    else if letters.contains 112 then Bytes.line (Bytes.ofNat last)
    else
      let number := if letters.contains 108 then Bytes.ofNat last ++ [Ascii.space] else []
      Bytes.line (ascii "[" ++ Bytes.ofNat entry.number ++ ascii "]" ++ mark ++
        ascii (if letters.contains 108 then " " else "  ") ++ number ++
        filledUp 24 (ascii "Running") ++ entry.text ++ ascii " &")
  print shown.flatten

def noJob (name : String) : Builtin := fun _ _ _ =>
  Run.fail (ascii name ++ ascii ": No current job")

def times : Builtin := fun _ _ _ => do
  let line := Bytes.line (ascii "0m0.000000s 0m0.000000s")
  print (line ++ line)

/-! Limits. -/

def limitLetters : List (UInt8 × Bytes) :=
  [(116, "unlimited"), (102, "unlimited"), (100, "unlimited"), (115, "8192"), (99, "0"),
    (109, "unlimited"), (108, "8192"), (112, "unlimited"), (110, "1024"), (118, "unlimited"),
    (119, "unlimited"), (114, "0")].map fun (letter, value) => (letter, ascii value)

def limit : Builtin := fun _ _ arguments => do
  let extended := (← get).extended
  let (letters, words) ←
    optionLetters (if extended then "HSatfdscmlpnvwrux" else "HSatfdscmlpnvwr") "ulimit" arguments
  let letter := ((letters.filter fun letter => letter ≠ 72 ∧ letter ≠ 83).getLast?).getD 102
  match words with
  | [] =>
      let value := ((← get).limits.lookup letter).getD
        ((limitLetters.lookup letter).getD (ascii "unlimited"))
      print (Bytes.line value)
  | value :: _ =>
      if value = ascii "unlimited" ∨ (Bytes.toNat? value).isSome then
        modify fun shell => { shell with
          limits := (letter, value) :: shell.limits.filter (·.1 ≠ letter) }
        return 0
      else Run.fail (ascii "ulimit: bad number")

end Rpn.Shell.Builtin
