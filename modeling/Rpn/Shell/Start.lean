import Rpn.Shell.Interpreter

/-! The shell as a program: its arguments, and where its commands come from.  Only serves the test
environment. -/

namespace Rpn.Shell.Start

open Host

structure Options where
  text : Option Bytes := none
  wantsText : Bool := false
  input : Bool := false
  options : List Bytes := []
  removed : List Bytes := []
  settings : List Bytes := Builtin.usualSettings
  version : Bool := false
  words : List Bytes := []

def takeLetters (extended on : Bool) (options : Options) : Bytes → Option Options
  | [] => some options
  | letter :: rest => do
      if letter = 99 then takeLetters extended on { options with wantsText := true } rest
      else if letter = 115 ∧ on then
        takeLetters extended on
          { options with input := true, options := ascii "stdin" :: options.options } rest
      else if letter = 108 ∨ letter = 105 then takeLetters extended on options rest
      else
        let letters :=
          if extended then Parameter.extendedLetters else Parameter.optionLetters
        let (name, _) ← letters.find? (·.2 == letter)
        let others := options.options.filter (· ≠ ascii name)
        let removed := if on then options.removed else ascii name :: options.removed
        takeLetters extended on
          { options with options := if on then ascii name :: others else others, removed } rest

def takeArguments (extended : Bool) (options : Options) : Nat → List Bytes → Option Options
  | 0, words => some { options with words }
  | _, [] => some options
  | bound + 1, word :: rest =>
      if word = ascii "-" ∨ word = ascii "--" then some { options with words := rest }
      else if word = ascii "-o" ∨ word = ascii "+o" then
        match rest with
        | name :: rest =>
            let others := options.options.filter (· ≠ name)
            let chosen := if word = ascii "-o" then name :: others else others
            takeArguments extended { options with options := chosen } bound rest
        | [] => some options
      else if extended ∧ (word = ascii "-O" ∨ word = ascii "+O") then
        let settings := if word = ascii "-O" then rest.headD [] :: options.settings
          else options.settings.filter (· ≠ rest.headD [])
        takeArguments extended { options with settings } bound rest.tail
      else if (ascii "--").isPrefixOf word then
        if !extended then none
        else if word = ascii "--posix" then
          takeArguments extended { options with options := ascii "posix" :: options.options } bound
            rest
        else if word = ascii "--version" then some { options with version := true }
        else if word = ascii "--rcfile" ∨ word = ascii "--init-file" then
          takeArguments extended options bound rest.tail
        else takeArguments extended options bound rest
      else
        match word with
        | Ascii.minus :: letters => do
            takeArguments extended (← takeLetters extended true options letters) bound rest
        | Ascii.plus :: letters => do
            takeArguments extended (← takeLetters extended false options letters) bound rest
        | _ => some { options with words := word :: rest }

/-! The beginning state. -/

def imported (environment : List Bytes) : Variables :=
  environment.foldl (fun known entry =>
    match Builtin.splitAssignment entry with
    | (name, some value) =>
        if isName name then known.put name { value := some (.text value), exported := true }
        else known
    | _ => known) []

def importedFunctions (environment : List Bytes) : List (Bytes × Command) :=
  environment.filterMap fun entry =>
    let (name, value) := Builtin.splitAssignment entry
    let start := ascii "BASH_FUNC_"
    let marks := ascii "%%"
    match value with
    | some value =>
        if start.isPrefixOf name ∧ marks.isSuffixOf name ∧ (ascii "()").isPrefixOf value then
          let name := (name.drop start.length).dropLast.dropLast
          match Reader.whole.run { rest := name ++ Ascii.space :: value, extended := true } with
          | .ok (.define name body, _) => some (name, body)
          | _ => none
        else none
    | none => none

def plainVariable (known : Variables) (name value : String) : Variables :=
  known.put (ascii name) { value := some (.text (ascii value)) }

def usualSearch : String :=
  "/usr/local/sbin:/usr/local/bin:/usr/sbin:/usr/bin:/sbin:/bin"

def initialShell (extended : Bool) (name : Bytes) (arguments : List Bytes) (given : Options) :
    Act State := do
  let options := given.options
  let number ← Act.self
  let process ← Act.process
  let physical ← Act.look fun self world =>
    (world.files.pathOf (world.process self).folder).render
  let known := imported process.environment
  let folder ← match known.text? (ascii "PWD") with
    | some path =>
        Act.look fun self world =>
          match world.files.find (world.process self).folder path with
          | .ok id =>
              if Path.isAbsolute path ∧ id = (world.process self).folder then path else physical
          | .error _ => physical
    | none => pure physical
  let known := plainVariable (plainVariable known "IFS" " \t\n") "OPTIND" "1"
  let known := plainVariable known "PS4" "+ "
  let known := if extended then known
    else plainVariable (plainVariable known "PS1" "# ") "PS2" "> "
  let known := if (known.text? (ascii "PATH")).isSome then known
    else plainVariable known "PATH" usualSearch
  let known := known.put (ascii "PPID") { value := some (.text (.ofNat process.parent)) }
  let known := known.put (ascii "PWD") { value := some (.text folder), exported := true }
  let user ← Act.user
  let started ← Act.look fun _ world => world.now
  let known := if extended then forExtended user known process.environment else known
  return {
    extended, number, name, arguments, known, folder, started
    options := if extended then
        options ++ Builtin.usualOptions.filter (!given.removed.contains ·)
      else options
    immovable := process.ignored, group := user.group
    settings := if extended then given.settings else []
    functions := if extended then importedFunctions process.environment else []
    shared := if extended then (importedFunctions process.environment).map (·.1) else [] }
where
  forExtended (user : User) (known : Variables) (environment : List Bytes) : Variables :=
    let level := ((System.valueIn? environment (ascii "SHLVL")).bind Bytes.toNat?).getD 0
    let known := known.put (ascii "SHLVL")
      { value := some (.text (.ofNat (level + 1))), exported := true }
    let known := [("BASH", "/usr/bin/bash"), ("BASH_VERSION", "5.2.15(1)-release"),
      ("HOSTTYPE", "x86_64"), ("MACHTYPE", "x86_64-pc-linux-gnu"), ("OSTYPE", "linux-gnu"),
      ("OPTERR", "1")].foldl (fun known (name, value) => plainVariable known name value) known
    let version := ["5", "2", "15", "1", "release", "x86_64-pc-linux-gnu"].map ascii
    let known := known.put (ascii "BASH_VERSINFO")
      { value := some (.ofTexts version), shape := .list, readOnly := true }
    let number := fun (known : Variables) (name : String) (value : Nat) =>
      known.put (ascii name)
        { value := some (.text (.ofNat value)), integer := true, readOnly := true }
    let known := number (number known "UID" user.number) "EUID" user.number
    let known := number known "PPID" ((known.text? (ascii "PPID")).bind Bytes.toNat? |>.getD 0)
    let unlessSet := fun (known : Variables) (name : String) (value : Bytes) =>
      if (known.text? (ascii name)).isSome then known
      else known.put (ascii name) { value := some (.text value) }
    let known := unlessSet known "TERM" (ascii "dumb")
    let known := unlessSet known "SHELL" 
      (((Account.ofNumber? user.number).map fun account => ascii account.shell).getD
        (ascii "/bin/sh"))
    known.put (ascii "_") { value := some (.text (ascii "/usr/bin/bash")) }

/-! Commands from a descriptor. -/

def readMore (extended : Bool) (descriptor : Nat) : Run Bytes := do
  if extended then
    let (marks, ended) ← Builtin.readLine { raw := true, descriptor }
    let text := Mark.text marks
    return if ended then Bytes.line text else text
  else return (← Act.read descriptor 8192).toOption.getD []

/-- Run the commands that are read from a descriptor.  `text` was read and not yet run, and `ended`
says that no more follows.  The number bounds how often is read. -/
def runInput (self : Executor) (descriptor : Nat) : Nat → Nat → Bytes → Bool → Run Unit
  | 0, _, _, _ => return ()
  | bound + 1, line, text, ended => do
      let shell ← get
      let found := Reader.line.run (Executor.source shell text line)
      let complete := match found with
        | .ok (some (_, false), after) => !(after.rest.isEmpty && !after.documents.isEmpty)
        | _ => false
      if !complete && !ended then
        match ← readMore shell.extended descriptor with
        | [] => runInput self descriptor bound line text true
        | more => runInput self descriptor bound line (text ++ more) false
      else
        match found with
        | .error fault => Run.fail (Executor.syntaxMessage fault)
        | .ok (none, _) => return ()
        | .ok (some (command, last), after) =>
            Executor.keepDocuments after
            Executor.discarding (self.run {} command)
            if last then return ()
            else runInput self descriptor bound after.line after.rest ended

/-! Starting. -/

def refuse (name message : Bytes) (status : Nat) : Program :=
  (do
    let _ ← Act.write 2 (Bytes.line (name ++ ascii ": 0: " ++ message))
    return status : Act Nat).toProgram

def versionProgram : Program :=
  (do
    let _ ← Act.write 1
      (Bytes.line (ascii "GNU bash, version 5.2.15(1)-release (x86_64-pc-linux-gnu)"))
    return 0 : Act Nat).toProgram

def runFile (system : System) (extended : Bool) (name : Bytes) (options : Options)
    (file : Bytes) (arguments : List Bytes) : Act Program := do
  let self := Interpreter.executor system Interpreter.maximalDepth
  match ← Act.openFrom 10 file { read := true } false with
  | .error fault =>
      return refuse name (ascii "cannot open " ++ file ++ ascii ": " ++ fault.message)
        (if extended then 127 else 2)
  | .ok descriptor =>
      let shell ← initialShell extended file arguments options
      let shell := if extended then { shell with sources := [file] } else shell
      return self.program shell (runInput self descriptor Act.unbounded 1 [] false)

def program (system : System) (extended : Bool) (arguments : List Bytes) : Program :=
  let name := arguments.headD (ascii "sh")
  let self := Interpreter.executor system Interpreter.maximalDepth
  let start : Act Program := do
    match takeArguments extended {} arguments.length arguments.tail with
    | none => return refuse name (ascii "Illegal option") 2
    | some options =>
        if options.version then return versionProgram
        match options.wantsText, options.words with
        | true, [] => return refuse name (ascii "-c requires an argument") 2
        | true, text :: rest =>
            let options := if extended then
                { options with options := ascii "commands" :: options.options }
              else options
            let shell ← initialShell extended (rest.headD name) rest.tail options
            return self.program shell (self.text { last := extended && !options.input } text)
        | false, file :: rest =>
            if options.input then
              let shell ← initialShell extended name (file :: rest) options
              return self.program shell (runInput self 0 Act.unbounded 1 [] false)
            else runFile system extended name options file rest
        | false, [] =>
            let options := { options with options := ascii "stdin" :: options.options }
            let shell ← initialShell extended name [] options
            return self.program shell (runInput self 0 Act.unbounded 1 [] false)
  start id

end Rpn.Shell.Start
