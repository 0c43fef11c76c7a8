import Rpn.Host.FileTest
import Rpn.Shell.Builtin.Variables

/-! What the name of a command stands for.  Only serves the test environment. -/

namespace Rpn.Shell

open Host

inductive Meaning where
  | alias (text : Bytes)
  | keyword
  | function (body : Command)
  | builtin (special : Bool)
  | file (path : Bytes)
  | missing (status : Nat)

namespace Lookup

def keywords : List Bytes :=
  ["!", "case", "do", "done", "elif", "else", "esac", "fi", "for", "if", "in", "then", "until",
    "while", "\x7b", "\x7d"].map ascii

def extendedKeywords : List Bytes :=
  ["[[", "]]", "function", "select", "time", "coproc"].map ascii

def builtins : List Bytes :=
  [".", ":", "[", "alias", "bg", "break", "cd", "chdir", "command", "continue", "echo", "eval",
    "exec", "exit", "export", "false", "fg", "getopts", "hash", "jobs", "kill", "local",
    "printf", "pwd", "read", "readonly", "return", "set", "shift", "test", "times", "trap",
    "true", "type", "ulimit", "umask", "unalias", "unset", "wait"].map ascii

def extendedBuiltins : List Bytes :=
  ["builtin", "declare", "typeset", "let", "mapfile", "readarray", "shopt", "source", "pushd",
    "popd", "dirs", "enable", "caller", "disown", "suspend", "logout", "help", "history", "bind",
    "compgen", "complete", "compopt", "fc"].map ascii

def isBuiltin (shell : State) (name : Bytes) : Bool :=
  if shell.extended then
    ((builtins.contains name && name ≠ ascii "chdir") || extendedBuiltins.contains name) &&
      !shell.disabled.contains name
  else builtins.contains name

def isSpecial (name : Bytes) : Bool :=
  Reader.specialBuiltins.contains name

def findProgram (searched name : Bytes) : Run Meaning := do
  if name.contains Ascii.slash then return .file name
  else
    let found ← (System.candidates searched name).findSomeM? fun place => do
      match ← Act.examine place with
      | .ok (_, node) =>
          if FileTest.isKind 102 node && (← Act.user).mayUse node User.passing then
            return some place
          else return none
      | .error _ => return none
    match found with
    | some path => return .file path
    | none => return .missing 127

def command (name : Bytes) (functions : Bool := true) (searched? : Option Bytes := none) :
    Run Meaning := do
  let shell ← get
  match (if functions then shell.functions.lookup name else none) with
  | some body => return .function body
  | none =>
      if isBuiltin shell name then return .builtin (isSpecial name)
      else
        findProgram (searched?.getD ((shell.known.text? (ascii "PATH")).getD [])) name

def word (name : Bytes) : Run Meaning := do
  let shell ← get
  if keywords.contains name || (shell.extended && extendedKeywords.contains name) then
    return .keyword
  else
    let hasAliases := !shell.extended || shell.settings.contains (ascii "expand_aliases")
    match if hasAliases then shell.aliases.lookup name else none with
    | some text => return .alias text
    | none =>
        match ← command name with
        | .file path =>
            match ← Act.examine path with
            | .ok _ => return .file path
            | .error _ => return .missing 127
        | found => return found

end Lookup

namespace Builtin

def remember (name path : Bytes) : Run Unit := do
  if !name.contains Ascii.slash then
    modify fun shell =>
      if shell.hashed.any (·.1 == name) then shell
      else { shell with hashed := shell.hashed ++ [(name, path)] }

/-- Say what a name stands for.  The answer is a status. -/
def describe (name : Bytes) : Run Nat := do
  let shell ← get
  let say := fun (text : Bytes) => print (Bytes.line (name ++ text))
  match ← Lookup.word name with
  | .keyword => say (ascii " is a shell keyword")
  | .alias text =>
      if shell.extended then say (ascii " is aliased to `" ++ text ++ ascii "'")
      else say (ascii " is an alias for " ++ text)
  | .function body =>
      if shell.extended then
        print (Bytes.line (name ++ ascii " is a function") ++ Printer.function name body)
      else say (ascii " is a shell function")
  | .builtin special =>
      say (ascii (if special && !shell.extended then " is a special shell builtin"
        else " is a shell builtin"))
  | .file path =>
      if name.contains Ascii.slash then say (ascii " is " ++ path)
      else if shell.hashed.any (·.1 == name) then
        if shell.extended then say (ascii " is hashed (" ++ path ++ ascii ")")
        else say (ascii " is a tracked alias for " ++ path)
      else
        if !shell.extended then remember name path
        say (ascii " is " ++ path)
  | .missing status =>
      let message := Bytes.line (name ++ ascii ": not found")
      if shell.extended then
        Run.complain (ascii "type: " ++ name ++ ascii ": not found")
        return 1
      else
        let _ ← print message
        return status

def identify (name : Bytes) : Run Nat := do
  match ← Lookup.word name with
  | .keyword | .function _ | .builtin _ => print (Bytes.line name)
  | .alias text => do
      let text := if (← get).extended then Parameter.quotedForm text else quoted text
      print (Bytes.line (ascii "alias " ++ name ++ Ascii.equals :: text))
  | .file path => print (Bytes.line path)
  | .missing status => return if (← get).extended then 1 else status

def kindName (name : Bytes) : Run Nat := do
  let say := fun (text : String) => print (Bytes.line (ascii text))
  match ← Lookup.word name with
  | .keyword => say "keyword"
  | .alias _ => say "alias"
  | .function _ => say "function"
  | .builtin _ => say "builtin"
  | .file _ => say "file"
  | .missing _ => return 1

def programsOf (name : Bytes) : Run (List Bytes) := do
  let searched := ((← get).known.text? (ascii "PATH")).getD []
  (System.candidates searched name).filterM fun place => do
    match ← Act.examine place with
    | .ok (_, node) =>
        return FileTest.isKind 102 node && (← Act.user).mayUse node User.passing
    | .error _ => return false

def describeAll (name : Bytes) (letters : Bytes) : Run Nat := do
  let shell ← get
  let onlyFiles := letters.contains 112 || letters.contains 80
  let kinds := letters.contains 116
  let files ← programsOf name
  let say := fun (kind : String) (text : Bytes) =>
    if onlyFiles then [] else Bytes.line (if kinds then ascii kind else name ++ text)
  let isKeyword := Lookup.keywords.contains name || Lookup.extendedKeywords.contains name
  let shown :=
    (match shell.aliases.lookup name with
    | some text => say "alias" (ascii " is aliased to `" ++ text ++ ascii "'")
    | none => []) ++
    (if isKeyword then say "keyword" (ascii " is a shell keyword") else []) ++
    (match shell.functions.lookup name with
    | some body =>
        say "function" (ascii " is a function") ++
          (if onlyFiles || kinds then [] else Printer.function name body)
    | none => []) ++
    (if Lookup.isBuiltin shell name then say "builtin" (ascii " is a shell builtin") else []) ++
    (files.flatMap fun path =>
      if onlyFiles then Bytes.line path else say "file" (ascii " is " ++ path))
  if shown = [] then
    Run.complain (ascii "type: " ++ name ++ ascii ": not found")
    return 1
  else print shown

def type : Builtin := fun _ _ arguments => do
  let shell ← get
  let (letters, names) ←
    optionLetters (if shell.extended then "tpPaf" else "") "type" arguments
  let statuses ← names.mapM fun name => do
    if letters.contains 97 then describeAll name letters
    else if letters.contains 116 then kindName name
    else if letters.contains 80 then
      match ← programsOf name with
      | path :: _ => print (Bytes.line path)
      | [] => return 1
    else if letters.contains 112 then
      match ← Lookup.word name with
      | .file path => print (Bytes.line path)
      | .missing _ => return 1
      | _ => return 0
    else describe name
  return (statuses.getLast?).getD 0 |> max (statuses.foldl max 0)

def enable : Builtin := fun _ _ arguments => do
  let shell ← get
  let (letters, names) ← optionLetters "anps" "enable" arguments
  let all := (Lookup.builtins.filter (· ≠ ascii "chdir") ++ Lookup.extendedBuiltins).mergeSort
  match names with
  | [] =>
      let chosen := if letters.contains 97 then all
        else if letters.contains 110 then all.filter (shell.disabled.contains ·)
        else all.filter (!shell.disabled.contains ·)
      print (chosen.flatMap fun name =>
        Bytes.line (ascii (if shell.disabled.contains name then "enable -n " else "enable ") ++
          name))
  | names =>
      let statuses ← names.mapM fun name => do
        if !all.contains name then
          Run.complain (ascii "enable: " ++ name ++ ascii ": not a shell builtin")
          return 1
        else
          modify fun shell =>
            let others := shell.disabled.filter (· ≠ name)
            { shell with disabled := if letters.contains 110 then name :: others else others }
          return 0
      return if statuses.any (· ≠ 0) then 1 else 0

def completionWords : Nat → List Bytes → List (UInt8 × Bytes) × Bytes
  | 0, _ => ([], [])
  | _, [] => ([], [])
  | bound + 1, word :: rest =>
      match word with
      | [Ascii.minus, Ascii.minus] => ([], rest.headD [])
      | [Ascii.minus, letter] =>
          if (ascii "AWoGFCXPS").contains letter then
            let (others, last) := completionWords bound rest.tail
            ((letter, rest.headD []) :: others, last)
          else
            let (others, last) := completionWords bound rest
            ((letter, []) :: others, last)
      | word => ([], word)

def complete : Builtin := fun _ _ arguments => do
  let shell ← get
  let (options, start) := completionWords (arguments.length + 1) arguments
  let builtins := (Lookup.builtins.filter (· ≠ ascii "chdir") ++ Lookup.extendedBuiltins).mergeSort
  let keywords := ["if", "then", "else", "elif", "fi", "case", "esac", "for", "select", "while",
    "until", "do", "done", "in", "function", "time", "\x7b", "\x7d", "!", "[[", "]]",
    "coproc"].map ascii
  let functions := (shell.functions.map (·.1)).mergeSort
  let known := (shell.known.map (·.1)).mergeSort
  let aliases := (shell.aliases.map (·.1)).mergeSort
  let exported := ((shell.known.filter (·.2.exported)).map (·.1)).mergeSort
  let ofKind := fun (kind : Bytes) =>
    match [("function", functions), ("builtin", builtins), ("keyword", keywords),
        ("variable", known), ("alias", aliases), ("export", exported)].find?
          (ascii ·.1 == kind) with
    | some (_, names) => names
    | none => []
  let found := options.flatMap fun (letter, argument) =>
    match Char.ofNat letter.toNat with
    | 'W' => (argument.splitOn Ascii.space).flatMap fun part =>
        (part.splitOn Ascii.newline).flatMap fun part =>
          (part.splitOn Ascii.tab).filter (· ≠ [])
    | 'A' => ofKind argument
    | 'b' => builtins
    | 'k' => keywords
    | 'v' => known
    | 'a' => aliases
    | 'e' => exported
    | 'c' => aliases ++ keywords ++ functions ++ builtins
    | _ => []
  match found.filter (start.isPrefixOf ·) with
  | [] => return 1
  | found => print (found.flatMap Bytes.line)

def hash : Builtin := fun _ _ arguments => do
  let shell ← get
  let (letters, names) ←
    optionLetters (if shell.extended then "rdlpt" else "r") "hash" arguments
  if letters.contains 114 then
    modify fun shell => { shell with hashed := [] }
  if letters.contains 116 then
    let statuses ← names.mapM fun name => do
      match shell.hashed.lookup name with
      | some path =>
          print (Bytes.line (if 1 < names.length then name ++ Ascii.tab :: path else path))
      | none => return 1
    return if statuses.any (· ≠ 0) then 1 else 0
  if shell.extended ∧ names = [] ∧ shell.hashed = [] ∧ letters = [] then
    return ← print (Bytes.line (ascii "hash: hash table empty"))
  if names = [] then
    if letters.contains 114 then return 0
    else
      let group := fun (name : Bytes) =>
        ((name.headD 0).toNat * 16 + (name.map (·.toNat)).foldl (· + ·) 0) % 31
      let sorted := shell.hashed.mergeSort fun left right => group left.1 ≤ group right.1
      print (sorted.flatMap fun (_, path) => Bytes.line path)
  else
    let statuses ← names.mapM fun name => do
      match ← Lookup.command name with
      | .file path =>
          remember name path
          return 0
      | .missing _ =>
          Run.complain (ascii "hash: " ++ name ++ ascii ": not found")
          return 1
      | _ => return 0
    return if statuses.any (· ≠ 0) then 1 else 0

end Builtin

end Rpn.Shell
