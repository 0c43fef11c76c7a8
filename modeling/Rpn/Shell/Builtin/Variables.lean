import Rpn.Shell.Builtin.Control

/-! Built-in commands about variables, options and aliases.  Only serves the test environment. -/

namespace Rpn.Shell.Builtin

open Host

/-- Write to the standard output.  The answer is a status. -/
def print (text : Bytes) : Run Nat := do
  if text = [] then return 0
  else if ← Run.write 1 text then return 0
  else
    Run.complain (ascii "I/O error")
    return 1

def quotedParts : Nat → Bytes → Bytes
  | 0, _ => []
  | bound + 1, text =>
      let part := text.takeWhile (· != Ascii.singleQuote)
      let rest := text.drop part.length
      let quotes := rest.takeWhile (· == Ascii.singleQuote)
      let after := rest.drop quotes.length
      let shown := Ascii.singleQuote :: part ++ [Ascii.singleQuote]
      if quotes = [] then shown
      else
        let shown := shown ++ ascii "\"" ++ quotes ++ ascii "\""
        if after = [] then shown else shown ++ quotedParts bound after

def quoted (text : Bytes) : Bytes :=
  quotedParts (text.length + 1) text

def optionLetters (allowed : String) (command : String) :
    List Bytes → Run (Bytes × List Bytes)
  | [] => return ([], [])
  | word :: rest => do
      match word with
      | Ascii.minus :: first :: others =>
          let letters := first :: others
          if letters = [Ascii.minus] then return ([], rest)
          else
            match letters.find? fun letter => !(ascii allowed).contains letter with
            | some letter =>
                Run.fail (ascii command ++ ascii ": Illegal option -" ++ [letter])
            | none =>
                let (more, rest) ← optionLetters allowed command rest
                return (letters ++ more, rest)
      | _ => return ([], word :: rest)

def splitAssignment (word : Bytes) : Bytes × Option Bytes :=
  let name := word.takeWhile (· != Ascii.equals)
  if name.length < word.length then (name, some (word.drop (name.length + 1)))
  else (name, none)

def checkName (name : Bytes) : Run Unit := do
  if !isName name then Run.fail (name ++ ascii ": bad variable name")

def listing (command : String) (keep : Variable → Bool) : Run Nat := do
  let shell ← get
  let found := shell.known.filter fun (_, entry) => keep entry
  let found := found.mergeSort fun left right => left.1 ≤ right.1
  print (found.flatMap fun (name, entry) =>
    let value := match entry.value.bind Value.text? with
      | some text =>
          Ascii.equals :: (if shell.extended then Display.doubleQuoted text else quoted text)
      | none => []
    Bytes.line (ascii command ++ ascii " " ++ name ++ value))

def withAttribute (command extendedCommand : String) (keep : Variable → Bool)
    (mark : Bool → Variable → Variable) : Builtin := fun _ _ arguments => do
  let shell ← get
  let (letters, names) ←
    optionLetters (if shell.extended then "pfna" else "p") command arguments
  if names = [] ∨ letters.contains 112 then
    listing (if shell.extended then extendedCommand else command) keep
  else
    for word in names do
      let (name, value) := splitAssignment word
      checkName name
      match value with
      | some value => Run.setVariable name value
      | none => pure ()
      modify fun shell => { shell with
        known := shell.known.modify name (mark (!letters.contains 110)) }
    return 0

def exportNames : Builtin :=
  withAttribute "export" "declare -x" (·.exported) fun on entry => { entry with exported := on }

def readOnly : Builtin :=
  withAttribute "readonly" "declare -r" (·.readOnly) fun _ entry => { entry with readOnly := true }

/-- Hide variables while the current function runs.  One without a value of its own keeps the old
one, or none in the extended language. -/
def localize : Builtin := fun _ _ arguments => do
  let shell ← get
  if shell.saved.isEmpty ∨ shell.callers.isEmpty then
    Run.fail (ascii "local: not in a function") (if shell.extended then 1 else 2)
  else
    for word in arguments do
      let (name, value) := splitAssignment word
      if name = [Ascii.minus] then Run.keepOptions
      else
        checkName name
        Run.hideVariable name
        match value with
        | some value => Run.setVariable name value
        | none =>
            if shell.extended then
              modify fun shell => { shell with known := shell.known.put name {} }
    return 0

def unset : Builtin := fun _ _ arguments => do
  let (letters, names) ← optionLetters "fv" "unset" arguments
  for name in names do
    if letters.contains 102 then
      modify fun shell => { shell with functions := shell.functions.filter (·.1 ≠ name) }
    else
      let base := name.takeWhile (· != Ascii.openBracket)
      let shell ← get
      if shell.extended ∧ base.length < name.length then
        unsetElement base ((name.drop (base.length + 1)).dropLast)
      else
        checkName name
        if shell.extended ∧ (shell.known.get? name).isNone ∧ !letters.contains 118 then
          modify fun shell => { shell with functions := shell.functions.filter (·.1 ≠ name) }
        Run.unsetVariable name
  return 0
where
  unsetElement (name key : Bytes) : Run Unit := do
    let shell ← get
    match shell.known.value? name with
    | some (.table elements) =>
        Run.setValue name (.table (elements.filter (·.1 ≠ key)))
    | some (.list elements) =>
        let index ← Expansion.calculate key
        let last := ((elements.map (·.1)).getLast?).getD 0
        let index := if index < 0 then index + last + 1 else index
        Run.setValue name (.list (elements.filter fun (number, _) => (number : Int) ≠ index))
    | _ => return ()

/-! Options. -/

def optionNames : List String :=
  ["errexit", "noglob", "ignoreeof", "interactive", "monitor", "noexec", "stdin", "xtrace",
    "verbose", "vi", "emacs", "noclobber", "allexport", "notify", "nounset", "privileged",
    "nolog", "debug"]

def extendedOptionNames : List String :=
  ["allexport", "braceexpand", "emacs", "errexit", "errtrace", "functrace", "hashall",
    "histexpand", "history", "ignoreeof", "interactive-comments", "keyword", "monitor",
    "noclobber", "noexec", "noglob", "nolog", "notify", "nounset", "onecmd", "physical",
    "pipefail", "posix", "privileged", "verbose", "vi", "xtrace"]

def namesOfOptions (shell : State) : List String :=
  if shell.extended then extendedOptionNames else optionNames

def setOption (name : Bytes) (on : Bool) : Run Unit :=
  modify fun shell =>
    let others := shell.options.filter (· ≠ name)
    { shell with options := if on then name :: others else others }

def setOptionByName (name : Bytes) (on : Bool) : Run Unit := do
  if (namesOfOptions (← get)).any (ascii · == name) then setOption name on
  else Run.fail (ascii "set: Illegal option -o " ++ name)

def setOptionByLetter (letter : UInt8) (on : Bool) : Run Unit := do
  let letters := if (← get).extended then Parameter.extendedLetters else Parameter.optionLetters
  match letters.find? (·.2 == letter) with
  | some (name, _) => setOption (ascii name) on
  | none => Run.fail (ascii "set: Illegal option -" ++ [letter])

def filledUp (width : Nat) (text : Bytes) : Bytes :=
  text ++ List.replicate (width - text.length) Ascii.space

def optionListing (asCommands : Bool) : Run Nat := do
  let shell ← get
  let heading := if asCommands ∨ shell.extended then []
    else Bytes.line (ascii "Current option settings")
  print (heading ++ (namesOfOptions shell).flatMap fun name =>
    let on := shell.options.contains (ascii name)
    if asCommands then
      Bytes.line (ascii "set " ++ ascii (if on then "-o " else "+o ") ++ ascii name)
    else if shell.extended then
      Bytes.line (filledUp 15 (ascii name) ++ Ascii.tab :: ascii (if on then "on" else "off"))
    else Bytes.line (filledUp 16 (ascii name) ++ ascii (if on then "on" else "off")))

def variableListing : Run Nat := do
  let shell ← get
  let sorted := shell.known.mergeSort fun left right => left.1 ≤ right.1
  print (sorted.flatMap fun (name, entry) =>
    match entry.value.bind Value.text? with
    | some text =>
        Bytes.line (name ++ Ascii.equals :: (if shell.extended then plainOrQuoted text
          else quoted text))
    | none => [])
where
  plainOrQuoted (text : Bytes) : Bytes :=
    if text.all fun byte => isNameByte byte || (ascii "/.,:+-@%").contains byte then text
    else Parameter.quotedForm text

/-- Take the letters of one word of options.  The answer is the rest of the arguments and whether
more options may follow. -/
def takeOptionWord (on : Bool) : Bytes → List Bytes → Run (List Bytes × Option Nat)
  | [], rest => return (rest, none)
  | letter :: letters, rest => do
      if letter = 111 then
        match rest with
        | name :: rest =>
            setOptionByName name on
            takeOptionWord on letters rest
        | [] => return ([], some (← optionListing (!on)))
      else
        setOptionByLetter letter on
        takeOptionWord on letters rest

/-- Take options from arguments.  The answer is the positional parameters, if there are any, and a
status. -/
def takeOptions : Nat → List Bytes → Run (Option (List Bytes) × Nat)
  | 0, _ => return (none, 0)
  | _, [] => return (none, 0)
  | bound + 1, word :: rest => do
      match word with
      | [Ascii.minus] => return (if rest = [] then none else some rest, 0)
      | [Ascii.minus, Ascii.minus] => return (some rest, 0)
      | Ascii.minus :: letters =>
          match ← takeOptionWord true letters rest with
          | (_, some status) => return (none, status)
          | (rest, none) => takeOptions bound rest
      | Ascii.plus :: first :: letters =>
          match ← takeOptionWord false (first :: letters) rest with
          | (_, some status) => return (none, status)
          | (rest, none) => takeOptions bound rest
      | _ => return (some (word :: rest), 0)

def setParameters : Builtin := fun _ _ arguments => do
  match arguments with
  | [] => variableListing
  | arguments =>
      let (positional, status) ← takeOptions (arguments.length + 1) arguments
      match positional with
      | some positional =>
          modify fun shell => { shell with arguments := positional, optionOffset := 0 }
      | none => pure ()
      return status

/-! Aliases. -/

def aliasLine (shell : State) (name text : Bytes) : Bytes :=
  if shell.extended then
    Bytes.line (ascii "alias " ++ name ++ Ascii.equals :: Parameter.quotedForm text)
  else Bytes.line (name ++ Ascii.equals :: quoted text)

def defineAlias : Builtin := fun _ _ arguments => do
  let shell ← get
  let arguments := if shell.extended then arguments.filter (· ≠ ascii "-p") else arguments
  match arguments with
  | [] =>
      let sorted := shell.aliases.mergeSort fun left right => left.1 ≤ right.1
      print (sorted.flatMap fun (name, text) => aliasLine shell name text)
  | arguments =>
      let statuses ← arguments.mapM fun word => do
        match splitAssignment word with
        | (name, some text) =>
            modify fun shell => { shell with
              aliases := (name, text) :: shell.aliases.filter (·.1 ≠ name) }
            return 0
        | (name, none) =>
            match (← get).aliases.lookup name with
            | some text => print (aliasLine shell name text)
            | none =>
                Run.complain (ascii "alias: " ++ name ++ ascii " not found")
                return 1
      return if statuses.any (· ≠ 0) then 1 else 0

def unalias : Builtin := fun _ _ arguments => do
  let (letters, names) ← optionLetters "a" "unalias" arguments
  if letters.contains 97 then
    modify fun shell => { shell with aliases := [] }
    return 0
  else
    let statuses ← names.mapM fun name => do
      if (← get).aliases.any (·.1 == name) then
        modify fun shell => { shell with aliases := shell.aliases.filter (·.1 ≠ name) }
        return 0
      else
        Run.complain (ascii "unalias: " ++ name ++ ascii " not found")
        return 1
    return if statuses.any (· ≠ 0) then 1 else 0

/-! Reading options of scripts. -/

inductive OptionKind where
  | unknown
  | plain
  | withArgument

def kindOf (letter : UInt8) : Bytes → OptionKind
  | [] => .unknown
  | first :: rest =>
      if first = letter ∧ letter ≠ Ascii.colon then
        if rest.head? = some Ascii.colon then .withArgument else .plain
      else kindOf letter rest

def getOption : Builtin := fun _ _ arguments => do
  match arguments with
  | described :: target :: words =>
      let shell ← get
      let words := if words = [] then shell.arguments else words
      let index := ((shell.known.text? (ascii "OPTIND")).bind Bytes.toNat?).getD 1
      let index := max index 1
      let same := index = shell.optionIndex
      let current := if same ∧ 1 < index then words.getD (index - 2) [] else []
      let left := if shell.optionOffset = 0 then [] else current.drop shell.optionOffset
      let silent := described.head? = some Ascii.colon
      match left with
      | letter :: rest => take described target words silent index letter rest
      | [] =>
          match words[index - 1]? with
          | some (Ascii.minus :: letter :: rest) =>
              if letter = Ascii.minus ∧ rest = [] then finish target (index + 1)
              else take described target words silent (index + 1) letter rest
          | _ => finish target index
  | _ => Run.fail (ascii "Usage: getopts optstring var [arg]")
where
  setIndex (index offset : Nat) : Run Unit := do
    Run.setVariable (ascii "OPTIND") (.ofNat index)
    modify fun shell => { shell with optionOffset := offset, optionIndex := index }
  finish (target : Bytes) (index : Nat) : Run Nat := do
    setIndex index 0
    Run.setVariable target [Ascii.question]
    return 1
  /-- Take a letter; `index` counts the words up to the one it stands in. -/
  take (described target : Bytes) (words : List Bytes) (silent : Bool) (index : Nat)
      (letter : UInt8) (rest : Bytes) : Run Nat := do
    let word := words.getD (index - 2) []
    let offset := if rest = [] then 0 else word.length - rest.length
    match kindOf letter described with
    | .unknown =>
        if silent then Run.setVariable (ascii "OPTARG") [letter]
        else
          let _ ← Run.write 2 (Bytes.line (ascii "Illegal option -" ++ [letter]))
          Run.unsetVariable (ascii "OPTARG")
        setIndex index offset
        Run.setVariable target [Ascii.question]
        return 0
    | .plain =>
        if (← get).extended then Run.unsetVariable (ascii "OPTARG")
        else Run.setVariable (ascii "OPTARG") []
        setIndex index offset
        Run.setVariable target [letter]
        return 0
    | .withArgument =>
        match rest, words[index - 1]? with
        | _ :: _, _ =>
            Run.setVariable (ascii "OPTARG") rest
            setIndex index 0
            Run.setVariable target [letter]
            return 0
        | [], some argument =>
            Run.setVariable (ascii "OPTARG") argument
            setIndex (index + 1) 0
            Run.setVariable target [letter]
            return 0
        | [], none =>
            if silent then Run.setVariable (ascii "OPTARG") [letter]
            else
              let _ ← Run.write 2 (Bytes.line (ascii "No arg for -" ++ letter :: ascii " option"))
              Run.unsetVariable (ascii "OPTARG")
            setIndex index 0
            Run.setVariable target (if silent then [Ascii.colon] else [Ascii.question])
            return 0

end Rpn.Shell.Builtin
