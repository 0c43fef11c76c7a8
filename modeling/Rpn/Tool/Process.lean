import Rpn.Text.Calendar.Reader
import Rpn.Tool.Entry
import Rpn.Tool.Printing

/-! Tools that start other programs or deal with processes.  Only serves the test environment. -/

namespace Rpn.Tool

open Host Text

/-! Starting programs. -/

def startStatus (fault : Fault) : Nat :=
  if fault = .missing ∨ fault = .notFolder then 127 else 126

/-- Go on as another program.  There is an answer only if it cannot be started. -/
def becomeCommand (arguments environment : List Bytes) : Run Fault := do
  Run.flush
  let system := (← get).system
  system.execByName arguments environment

def commandProgram (before : Act Unit) (arguments : List Bytes) (complaint : Fault → Bytes) :
    Run Host.Program := do
  let system := (← get).system
  return (do
    before
    let environment := (← Act.process).environment
    let fault ← system.execByName arguments environment
    let _ ← Act.write 2 (Bytes.line (complaint fault))
    return startStatus fault : Act Nat).toProgram

def shellCommand (command : Bytes) : List Bytes :=
  [ascii "sh", ascii "-c", command]

def commandOutput (command : Bytes) : Run Bytes := do
  Run.flush
  let (input, output) ← Act.pipe
  let child ← commandProgram
    (do
      Act.close input
      Act.move output 1)
    (shellCommand command) (·.message)
  let number ← Act.fork child
  Act.close output
  let text ← Act.readAll input
  Act.close input
  let _ ← Act.wait number
  return text.toOption.getD []

/-! The environment. -/

def putVariable (environment : List Bytes) (assignment : Bytes) : List Bytes :=
  let name := assignment.takeWhile (· != Ascii.equals) ++ [Ascii.equals]
  if environment.any (name.isPrefixOf ·) then
    environment.map fun entry => if name.isPrefixOf entry then assignment else entry
  else environment ++ [assignment]

def dropVariable (environment : List Bytes) (name : Bytes) : List Bytes :=
  environment.filter fun entry => !(name ++ [Ascii.equals]).isPrefixOf entry

/-- Divide a text into words as a simple shell would.  `part` is the word so far in reverse, if
there is one, and `quote` the quote that is open. -/
def splitWords (part : Option Bytes) (quote : Option UInt8) : Bytes → List Bytes
  | [] => part.toList.map List.reverse
  | byte :: rest =>
      let current := part.getD []
      match quote with
      | some mark =>
          if byte = mark then splitWords (some current) none rest
          else splitWords (some (byte :: current)) quote rest
      | none =>
          if isSpace byte then part.toList.map List.reverse ++ splitWords none none rest
          else if byte = Ascii.singleQuote ∨ byte = Ascii.doubleQuote then
            splitWords (some current) (some byte) rest
          else splitWords (some (byte :: current)) none rest

def env : Main := fun arguments => do
  let choices :=
    [ flag ["i", "ignore-environment"], flag ["0", "null"], valued ["u", "unset"],
      valued ["C", "chdir"], valued ["S", "split-string"], flag ["v", "debug"],
      perhapsValued ["block-signal"], perhapsValued ["default-signal"],
      perhapsValued ["ignore-signal"], flag ["list-signal-handling"] ]
  let parsed ← Run.options choices arguments true 125
  let parsed ← match parsed.value? "S" with
    | none => pure parsed
    | some text =>
        let words := splitWords none none text ++ parsed.operands
        let inner ← Run.options choices words true 125
        pure { inner with given := parsed.given ++ inner.given }
  let (ignoring, operands) := match parsed.operands with
    | [Ascii.minus] :: rest => (true, rest)
    | operands => (parsed.has "i", operands)
  let process ← Act.process
  let inherited := if ignoring then [] else process.environment
  let kept := (parsed.values "u").foldl dropVariable inherited
  let assignments := operands.takeWhile (·.contains Ascii.equals)
  let command := operands.drop assignments.length
  let environment := assignments.foldl putVariable kept
  match parsed.value? "C" with
  | none => pure ()
  | some folder =>
      if command = [] then Run.failWithHint (ascii "must specify command with --chdir (-C)") 125
      match ← Act.enterFolder folder with
      | .ok () => pure ()
      | .error fault =>
          Run.fail (ascii "cannot change directory to " ++ Quoting.always folder ++ ascii ": " ++
            fault.message) 125
  if command = [] then
    for entry in environment do
      Run.say (entry ++ [if parsed.has "0" then 0 else Ascii.newline])
    return 0
  else
    if parsed.has "v" then
      Run.note (Bytes.line (ascii "executing: " ++ command.headD []))
      for (index, word) in (List.range command.length).zip command do
        Run.note (Bytes.line (ascii "   arg[" ++ .ofNat index ++ ascii "]= " ++
          Quoting.plain word))
    let fault ← becomeCommand command environment
    Run.complain (Quoting.plain (command.headD []) ++ ascii ": " ++ fault.message)
    if fault = .missing ∧ (command.headD []).contains Ascii.space then
      Run.complain (ascii "use -[v]S to pass options in shebang lines")
    return startStatus fault

def printenv : Main := fun arguments => do
  let parsed ← Run.options [flag ["0", "null"]] arguments true 2
  let environment := (← Act.process).environment
  let ending := if parsed.has "0" then 0 else Ascii.newline
  if parsed.operands = [] then
    for entry in environment do Run.say (entry ++ [ending])
    return 0
  else
    for name in parsed.operands do
      match System.valueIn? environment name with
      | some value => Run.say (value ++ [ending])
      | none => Run.setStatus 1
    Run.status

/-! Time. -/

def readInterval? (text : Bytes) : Option Nat := do
  let (digits, factor) := match text.getLast? with
    | some 115 => (text.dropLast, 1)
    | some 109 => (text.dropLast, 60)
    | some 104 => (text.dropLast, 3600)
    | some 100 => (text.dropLast, 86400)
    | _ => (text, 1)
  if digits = ascii "inf" ∨ digits = ascii "infinity" then return Nat.pow 10 30
  let decimal ← readDecimal? digits
  if decimal.value < 0 then none
  return decimal.value.toNat * factor * 1000000000 / Nat.pow 10 decimal.places

def sleep : Main := fun arguments => do
  let parsed ← Run.options [] arguments
  if parsed.operands = [] then Run.failWithHint (ascii "missing operand")
  let mut total := 0
  let mut refused := false
  for text in parsed.operands do
    match readInterval? text with
    | some time => total := total + time
    | none =>
        Run.complain (ascii "invalid time interval " ++ Quoting.plain text)
        refused := true
  if refused then
    Run.note (Bytes.line (ascii "Try '" ++ (← get).name ++
      ascii " --help' for more information."))
    throw 1
  Act.sleep total
  return 0

def usualDate : Bytes := ascii "%a %b %e %H:%M:%S %Z %Y"

/-- The format of dates with a precision that is named.  `gap` stands before the time and `point`
before parts of seconds. -/
def isoFormat (word gap point : String) : Bytes :=
  let time := fun (format : String) => ascii ("%Y-%m-%d" ++ gap ++ format ++ "%:z")
  match word with
  | "hours" => time "%H"
  | "minutes" => time "%H:%M"
  | "seconds" => time "%H:%M:%S"
  | "ns" => time ("%H:%M:%S" ++ point ++ "%N")
  | _ => ascii "%Y-%m-%d"

def date : Main := fun arguments => do
  let parsed ← Run.options
    [valued ["d", "date"], valued ["f", "file"], perhapsValued ["I", "iso-8601"],
      flag ["R", "rfc-email"], valued ["rfc-3339"], valued ["r", "reference"], valued ["s", "set"],
      flag ["u", "utc", "universal"], flag ["debug"], flag ["resolution"]] arguments
  let now ← currentTime
  match parsed.operands with
  | _ :: extra :: _ => Run.failWithHint (ascii "extra operand " ++ Quoting.plain extra)
  | _ => pure ()
  if 1 < (["d", "f", "r"].filter parsed.has).length then
    Run.failWithHint
      (ascii "the options to specify dates for printing are mutually exclusive")
  let optional? : Option Bytes ← match parsed.last? ["I", "R", "rfc-3339"] with
    | some "I" =>
        let word ← match parsed.value? "I" with
          | none => pure "date"
          | some text =>
              Run.choose "--iso-8601" [["hours"], ["minutes"], ["date"], ["seconds"], ["ns"]] text
        pure (some (isoFormat word "T" ","))
    | some "R" => pure (some (ascii "%a, %d %b %Y %H:%M:%S %z"))
    | some _ =>
        let word ← Run.choose "--rfc-3339" [["date"], ["seconds"], ["ns"]]
          ((parsed.value? "rfc-3339").getD [])
        pure (some (isoFormat word " " "."))
    | none => pure none
  let format ← match parsed.operands with
    | [Ascii.plus :: format] =>
        if optional?.isSome then Run.fail (ascii "multiple output formats specified")
        else pure format
    | [operand] => Run.fail (ascii "invalid date " ++ Quoting.plain operand)
    | _ => pure (optional?.getD usualDate)
  let moments ← match parsed.last? ["d", "r", "f"] with
    | some "d" => pure [(parsed.value? "d").getD []]
    | some "f" =>
        match ← readInput ((parsed.value? "f").getD []) with
        | .ok text => pure (plainLines text)
        | .error fault =>
            Run.fail (Quoting.whenNeeded ((parsed.value? "f").getD []) ++ ascii ": " ++
              fault.message)
    | _ => pure []
  match parsed.value? "r" with
  | some path =>
      match ← Act.examine path with
      | .ok (_, node) =>
          Run.sayLine (Calendar.format (Moment.ofNanoseconds node.modified) format)
          return 0
      | .error fault => Run.fail (Quoting.whenNeeded path ++ ascii ": " ++ fault.message)
  | none =>
      if parsed.has "d" ∨ parsed.has "f" then
        for text in moments do
          match Calendar.read? now text with
          | some time => Run.sayLine (Calendar.format (Moment.ofNanoseconds time) format)
          | none => Run.worry (ascii "invalid date " ++ Quoting.plain text)
        Run.status
      else
        Run.sayLine (Calendar.format (Moment.ofNanoseconds now) format)
        return 0

/-! Limits and surroundings of commands. -/

def waitUntil (child deadline : Nat) : Act (Option Ending) := do
  Act.modifyProcess fun process => { process with wake := some deadline }
  let ended ← Act.await fun _ world =>
    match world.process? child with
    | some { ended := some ending, .. } => some (some ending, world.forget child)
    | some _ => if deadline ≤ world.now then some (none, world) else none
    | none => some (some (.exited 127), world)
  Act.modifyProcess fun process => { process with wake := none }
  return ended

def readSignal? (text : Bytes) : Option Nat :=
  match Bytes.toNat? text with
  | some number => if number ≤ 64 then some number else none
  | none =>
      let name := if (ascii "SIG").isPrefixOf (text.map toUpper) then text.drop 3 else text
      Signal.ofName? name

def timeout : Main := fun arguments => do
  let parsed ← Run.options
    [flag ["foreground"], valued ["k", "kill-after"], flag ["preserve-status"],
      valued ["s", "signal"], flag ["v", "verbose"]] arguments true 125
  let hint : Run Nat := do
    Run.note (Bytes.line (ascii "Try '" ++ (← get).name ++
      ascii " --help' for more information."))
    return 125
  match parsed.operands with
  | limit :: command@(_ :: _) =>
      let interval := fun (text : Bytes) => do
        match readInterval? text with
        | some time => pure time
        | none => Run.failWithHint (ascii "invalid time interval " ++ Quoting.plain text) 125
      let time ← interval limit
      let later ← match parsed.value? "k" with
        | some text => pure (some (← interval text))
        | none => pure none
      let signal ← match parsed.value? "s" with
        | none => pure Signal.terminate
        | some text =>
            match readSignal? text with
            | some signal => pure signal
            | none => Run.failWithHint (Quoting.plain text ++ ascii ": invalid signal") 125
      let name := (← get).name
      let program ← commandProgram (pure ()) command fun fault =>
        name ++ ascii ": failed to run command " ++ Quoting.always (command.headD []) ++
          ascii ": " ++ fault.message
      let child ← Act.fork program
      let now ← currentTime
      let status := fun (ending : Ending) (timed : Bool) =>
        match ending with
        | .exited status => if timed && !parsed.has "preserve-status" then 124 else status
        | .killed signal =>
            if timed && !parsed.has "preserve-status" && signal != Signal.kill then 124
            else 128 + signal
      let first ← if time = 0 then Act.wait child else waitUntil child (now + time)
      match first with
      | some (.killed signal) =>
          Run.flush
          Act.finish (.killed signal)
      | some ending => return status ending false
      | none =>
          let _ ← Act.signal child signal
          let _ ← Act.signal child Signal.resume
          if signal = Signal.kill then
            let _ ← Act.wait child
            Act.finish (.killed Signal.kill)
          else
            match later with
            | none => return status ((← Act.wait child).getD (.exited 0)) true
            | some time =>
                let now ← currentTime
                match ← waitUntil child (now + time) with
                | some ending => return status ending true
                | none =>
                    let _ ← Act.signal child Signal.kill
                    let _ ← Act.wait child
                    Act.finish (.killed Signal.kill)
  | _ => hint

def goOn (command : List Bytes) (complaint : Bytes → Fault → Bytes) : Run Nat := do
  let environment := (← Act.process).environment
  let fault ← becomeCommand command environment
  Run.complain (complaint (command.headD []) fault)
  return startStatus fault

def readSigned? (text : Bytes) : Option Int :=
  match text with
  | Ascii.minus :: digits => (Bytes.toNat? digits).map fun value => -(value : Int)
  | Ascii.plus :: digits => (Bytes.toNat? digits).map fun value => (value : Int)
  | digits => (Bytes.toNat? digits).map fun value => (value : Int)

def nice : Main := fun arguments => do
  let arguments := match arguments with
    | (Ascii.minus :: digits) :: rest =>
        if digits ≠ [] ∧ digits.all isDigit then ascii "-n" :: digits :: rest else arguments
    | _ => arguments
  let parsed ← Run.options [valued ["n", "adjustment"]] arguments true 125
  if parsed.operands = [] then
    Run.sayLine (.ofInt (← Act.process).niceness)
    return 0
  else
    let change ← match parsed.value? "n" with
      | none => pure 10
      | some text =>
          match readSigned? text with
          | some change => pure change
          | none => Run.fail (ascii "invalid adjustment " ++ Quoting.plain text) 125
    Act.modifyProcess fun process => { process with
      niceness := min 19 (max (-20) (process.niceness + change)) }
    goOn parsed.operands fun name fault => Quoting.plain name ++ ascii ": " ++ fault.message

def nohup : Main := fun arguments => do
  let parsed ← Run.options [] arguments true 125
  if parsed.operands = [] then Run.failWithHint (ascii "missing operand") 125
  Act.modifyProcess fun process => { process with ignored := Signal.hangup :: process.ignored }
  goOn parsed.operands fun name fault =>
    ascii "failed to run command " ++ Quoting.always name ++ ascii ": " ++ fault.message

def setsid : Main := fun arguments => do
  let parsed ← Run.options [flag ["c", "ctty"], flag ["f", "fork"], flag ["w", "wait"]] arguments true
  if parsed.operands = [] then Run.failWithHint (ascii "no command specified")
  goOn parsed.operands fun name fault =>
    ascii "failed to execute " ++ name ++ ascii ": " ++ fault.message

def stdbuf : Main := fun arguments => do
  let parsed ← Run.options
    [valued ["i", "input"], valued ["o", "output"], valued ["e", "error"]] arguments true 125
  if parsed.operands = [] then Run.failWithHint (ascii "missing operand") 125
  goOn parsed.operands fun name fault =>
    ascii "failed to run command " ++ Quoting.always name ++ ascii ": " ++ fault.message

/-! Signals. -/

def killUsage : String :=
  "\nUsage:\n kill [options] <pid> [...]\n\nOptions:\n" ++
  " <pid> [...]            send signal to every <pid> listed\n" ++
  " -<signal>, -s, --signal <signal>\n" ++
  "                        specify the <signal> to be sent\n" ++
  " -q, --queue <value>    integer value to be sent with the signal\n" ++
  " -l, --list=[<signal>]  list all signal names, or convert one to a name\n" ++
  " -L, --table            list all signal names in a nice table\n\n" ++
  " -h, --help     display this help and exit\n" ++
  " -V, --version  output version information and exit\n\n" ++
  "For more details see kill(1).\n"

def translateSignal (text : Bytes) : Option Bytes :=
  match Bytes.toNat? text with
  | some number => if 0 < number ∧ number ≤ 64 then some (Signal.name number) else none
  | none => (readSignal? text).map Bytes.ofNat

def kill : Main := fun arguments => do
  let usage : Run Nat := do
    Run.note (ascii killUsage)
    return 1
  match arguments with
  | [] => usage
  | first :: rest =>
      if first = ascii "-l" ∨ first = ascii "--list" then
        match rest with
        | [] =>
            Run.sayLine ([Ascii.space].intercalate (Signal.names.take 16))
            Run.sayLine ([Ascii.space].intercalate (Signal.names.drop 16))
            return 0
        | texts =>
            for text in texts do
              match translateSignal text with
              | some shown => Run.sayLine shown
              | none =>
                  Run.complain (ascii "unknown signal name " ++ text)
                  Run.setStatus 1
            Run.status
      else
        let (signal?, targets) := match first, rest with
          | Ascii.minus :: letter :: more, rest =>
              if first = ascii "-s" ∨ first = ascii "--signal" then
                (rest.head?.bind readSignal?, rest.tail)
              else if first = ascii "--" then (some Signal.terminate, rest)
              else (readSignal? (letter :: more), rest)
          | _, _ => (some Signal.terminate, arguments)
        match signal? with
        | none =>
            Run.complain (ascii "invalid argument " ++ (first.drop 1).take 1)
            usage
        | some signal =>
            if targets = [] then usage
            else
              for target in targets do
                match Bytes.toNat? target with
                | none =>
                    Run.worry (ascii "failed to parse argument: '" ++ target ++ ascii "'")
                | some number =>
                    match ← Act.signal number signal with
                    | .ok () => pure ()
                    | .error fault =>
                        Run.worry (ascii "(" ++ target ++ ascii "): " ++ fault.message)
              Run.status

/-! Who and where. -/

def whoami : Main := fun arguments => do
  let parsed ← Run.options [] arguments
  match parsed.operands with
  | [] =>
      Run.sayLine (Account.userName (← Act.user).number)
      return 0
  | extra :: _ => Run.failWithHint (ascii "extra operand " ++ Quoting.plain extra)

def namedNumber (name : Nat → Bytes) (number : Nat) : Bytes :=
  .ofNat number ++ ascii "(" ++ name number ++ ascii ")"

def id : Main := fun arguments => do
  let parsed ← Run.options
    [flag ["u", "user"], flag ["g", "group"], flag ["G", "groups"], flag ["n", "name"],
      flag ["r", "real"], flag ["z", "zero"], flag ["a"], flag ["Z", "context"]] arguments
  let kinds := ["u", "g", "G"].filter parsed.has
  if 1 < kinds.length then Run.fail (ascii "cannot print \"only\" of more than one choice")
  if kinds = [] ∧ (parsed.has "n" ∨ parsed.has "r") then
    Run.fail (ascii "cannot print only names or real IDs in default format")
  let users ← match parsed.operands with
    | [] => pure [some (← Act.user)]
    | names => names.mapM fun name => do
        match (Account.userNumber? name).bind Account.ofNumber? with
        | some account => pure (some { number := account.number, group := account.group })
        | none =>
            Run.worry (Quoting.plain name ++ ascii ": no such user")
            pure (none : Option User)
  for user in users.filterMap fun user => user do
    let groupText := namedNumber Account.groupName user.group
    match kinds with
    | ["u"] =>
        Run.sayLine (if parsed.has "n" then Account.userName user.number else .ofNat user.number)
    | [_] =>
        Run.sayLine (if parsed.has "n" then Account.groupName user.group else .ofNat user.group)
    | _ =>
        Run.sayLine (ascii "uid=" ++ namedNumber Account.userName user.number ++ ascii " gid=" ++
          groupText ++ ascii " groups=" ++ groupText)
  Run.status

def groups : Main := fun arguments => do
  match arguments with
  | [] => Run.sayLine (Account.groupName (← Act.user).group)
  | names =>
      for name in names do
        match Account.ofName? name with
        | some account =>
            Run.sayLine (name ++ ascii " : " ++ Account.groupName account.group)
        | none => Run.worry (Quoting.plain name ++ ascii ": no such user")
  Run.status

def logname : Main := fun _ => do
  Run.fail (ascii "no login name")

def uname : Main := fun arguments => do
  let parsed ← Run.options
    [flag ["a", "all"], flag ["s", "kernel-name"], flag ["n", "nodename"],
      flag ["r", "kernel-release"], flag ["v", "kernel-version"], flag ["m", "machine"],
      flag ["p", "processor"], flag ["i", "hardware-platform"], flag ["o", "operating-system"]]
    arguments
  match parsed.operands with
  | extra :: _ => Run.failWithHint (ascii "extra operand " ++ Quoting.plain extra)
  | [] =>
      let all := parsed.has "a"
      let parts := [("s", "Linux"), ("n", "localhost"), ("r", "6.8.0"), ("v", "#1 SMP"),
        ("m", "x86_64"), ("p", "x86_64"), ("i", "x86_64"), ("o", "GNU/Linux")]
      let shown := parts.filter fun (letter, _) =>
        all || parsed.has letter || (letter == "s" && parsed.given.isEmpty)
      Run.sayLine ([Ascii.space].intercalate (shown.map fun (_, text) => ascii text))
      return 0

def arch : Main := fun _ => do
  Run.sayLine (ascii "x86_64")
  return 0

def hostname : Main := fun _ => do
  Run.sayLine (ascii "localhost")
  return 0

def nproc : Main := fun _ => do
  Run.sayLine (ascii "1")
  return 0

def tty : Main := fun arguments => do
  let parsed ← Run.options [flag ["s", "silent", "quiet"]] arguments false 2
  if !parsed.has "s" then Run.sayLine (ascii "not a tty")
  return 1

def which : Main := fun arguments => do
  let parsed ← Run.options [flag ["a"], flag ["s"]] arguments
  if parsed.operands = [] then return 1
  let searched := (← Run.environment? "PATH").getD []
  for name in parsed.operands do
    let places := if name.contains Ascii.slash then [name] else System.candidates searched name
    let mut found := false
    for place in places do
      if !found ∨ parsed.has "a" then
        match ← node? place with
        | some (_, node) =>
            if !isFolderNode node ∧ (← Act.user).mayUse node User.passing then
              if !parsed.has "s" then Run.sayLine place
              found := true
        | none => pure ()
    if !found then Run.setStatus 1
  Run.status

end Rpn.Tool
