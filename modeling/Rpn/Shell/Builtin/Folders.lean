import Rpn.Host.FileTest
import Rpn.Host.Mode
import Rpn.Shell.Builtin.Variables

/-! Built-in commands about the current folder and the mask of new files.  Only serves the test
environment. -/

namespace Rpn.Shell.Builtin

open Host

/-- A path seen from another one, by its names only: each `..` takes back a name. -/
def resolvePath (current path : Bytes) : Bytes :=
  let whole := if Path.isAbsolute path then path else current ++ Ascii.slash :: path
  let names := (whole.splitOn Ascii.slash).foldl (fun (names : List Bytes) name =>
    if name = [] ∨ name = ascii "." then names
    else if name = ascii ".." then names.tail
    else name :: names) []
  let start := if (ascii "//").isPrefixOf whole ∧ !(ascii "///").isPrefixOf whole then
      [Ascii.slash]
    else []
  start ++ Path.render names.reverse

/-- Go to a folder.  The answer is whether it is there. -/
def enterFolder (path : Bytes) : Run Bool := do
  match ← Act.enterFolder path with
  | .ok () => return true
  | .error _ => return false

def physicalFolder : Run Bytes :=
  Act.look fun self world => (world.files.pathOf (world.process self).folder).render

def setFolder (folder : Bytes) : Run Unit := do
  let before := (← get).folder
  let assign := fun (name value : Bytes) =>
    modify fun shell => { shell with
      known := shell.known.modify name fun entry =>
        { entry with value := some (.text value), exported := true } }
  assign (ascii "OLDPWD") before
  assign (ascii "PWD") folder
  modify fun shell => { shell with folder }

def folderCandidates (searched path : Bytes) : List (Bytes × Bool) :=
  (searched.splitOn Ascii.colon).map fun place =>
    if place = [] then (path, false) else (place ++ Ascii.slash :: path, true)

def beginsWithDots (path : Bytes) : Bool :=
  match path.takeWhile (· != Ascii.slash) with
  | [Ascii.dot] | [Ascii.dot, Ascii.dot] => true
  | _ => false

def isFolderPath (path : Bytes) : Run Bool := do
  match ← Act.examine path with
  | .ok (_, node) => return FileTest.isKind 100 node
  | .error _ => return false

def changeFolder : Builtin := fun _ _ arguments => do
  let shell ← get
  let (letters, words) ← optionLetters "LPe@" "cd" arguments
  let physical := letters.getLast? == some 80
  let target? := match words with
    | [] => (shell.known.text? (ascii "HOME")).map (·, false)
    | path :: _ =>
        if path = [Ascii.minus] then (shell.known.text? (ascii "OLDPWD")).map (·, true)
        else some (path, false)
  if target?.isNone && shell.extended then
    Run.complain (ascii "cd: HOME not set")
    return 1
  let (path, shown) := target?.getD ([], words.head? == some [Ascii.minus])
  let (chosen, shown) ←
    if Path.isAbsolute path ∨ beginsWithDots path then pure (path, shown)
    else
      let path := if path = [] then [Ascii.dot] else path
      let searched := (shell.known.text? (ascii "CDPATH")).getD []
      match ← (folderCandidates searched path).findM? fun (place, _) => isFolderPath place with
      | some (place, noted) => pure (place, shown || noted)
      | none => pure (path, shown)
  let goal := if physical then chosen else resolvePath shell.folder chosen
  if ← enterFolder goal then
    setFolder (← if physical then physicalFolder else pure goal)
    if shown then print (Bytes.line (← get).folder) else return 0
  else Run.fail (ascii "cd: can't cd to " ++ path) (if shell.extended then 1 else 2)

def showFolder : Builtin := fun _ _ arguments => do
  let (letters, _) ← optionLetters "LP" "pwd" arguments
  if letters.getLast? = some 80 then print (Bytes.line (← physicalFolder))
  else print (Bytes.line (← get).folder)

/-! The stack of folders of the extended language. -/

def abbreviated (shell : State) (path : Bytes) : Bytes :=
  match shell.known.text? (ascii "HOME") with
  | some home =>
      if home = [] ∨ home = [Ascii.slash] then path
      else if path = home then [Ascii.tilde]
      else if (home ++ [Ascii.slash]).isPrefixOf path then
        Ascii.tilde :: path.drop home.length
      else path
  | none => path

def stackListing (letters : Bytes) : Run Nat := do
  let shell ← get
  let has := fun (letter : Char) => letters.contains letter.toNat.toUInt8
  let paths := (shell.folder :: shell.folders).map fun path =>
    if has 'l' then path else abbreviated shell path
  if has 'v' then
    print (paths.mapIdx fun index path =>
      let number := Bytes.ofNat index
      Bytes.line (List.replicate (2 - number.length) Ascii.space ++ number ++ ascii "  " ++
        path)).flatten
  else if has 'p' then print (paths.flatMap Bytes.line)
  else print (Bytes.line (joinedWords paths))

def stackPlace? (count : Nat) (word : Bytes) : Option Nat :=
  match word with
  | Ascii.plus :: digits => (Bytes.toNat? digits).filter (· < count)
  | Ascii.minus :: digits => do
      let number ← Bytes.toNat? digits
      if number < count then some (count - 1 - number) else none
  | _ => none

def isStackPlace (word : Bytes) : Bool :=
  match word with
  | first :: rest => (first == Ascii.plus || first == Ascii.minus) && (Bytes.toNat? rest).isSome
  | [] => false

def noSuchPlace (command : String) (word : Bytes) : Run Nat := do
  Run.complain (ascii command ++ ascii ": " ++ word ++ ascii ": directory stack index out of range")
  return 1

def showStack : Builtin := fun _ _ arguments => do
  let places := arguments.filter isStackPlace
  let (letters, words) ← optionLetters "clpv" "dirs" (arguments.filter (!isStackPlace ·))
  if words ≠ [] then
    Run.complain (ascii "dirs: " ++ words.headD [] ++ ascii ": invalid option")
    return 2
  if letters.contains 99 then
    modify fun shell => { shell with folders := [] }
    return 0
  match places with
  | [] => stackListing letters
  | place :: _ =>
      let shell ← get
      let paths := shell.folder :: shell.folders
      match stackPlace? paths.length place with
      | some index =>
          let path := paths.getD index []
          print (Bytes.line (if letters.contains 108 then path else abbreviated shell path))
      | none => noSuchPlace "dirs" place

/-- Make a folder the current one; `folders` are the others from then on. -/
def moveTo (self : Executor) (position : Position) (path : Bytes) (folders : List Bytes) :
    Run Nat := do
  let status ← try changeFolder self position [ascii "--", path]
    catch stop =>
      match stop with
      | .fault => pure 1
      | stop => throw stop
  if status = 0 then
    modify fun shell => { shell with folders }
    stackListing []
  else return 1

def pushFolder : Builtin := fun self position arguments => do
  let shell ← get
  let inPlace := arguments.head? == some (ascii "-n")
  let arguments := if inPlace then arguments.tail else arguments
  let arguments := if arguments.head? = some (ascii "--") then arguments.tail else arguments
  let stack := shell.folder :: shell.folders
  match arguments with
  | [] =>
      match shell.folders with
      | [] =>
          Run.complain (ascii "pushd: no other directory")
          return 1
      | next :: rest =>
          if inPlace then return 0 else moveTo self position next (shell.folder :: rest)
  | word :: _ =>
      if isStackPlace word then
        match stackPlace? stack.length word with
        | some index =>
            let turned := stack.drop index ++ stack.take index
            if inPlace then
              modify fun shell => { shell with folders := turned.tail }
              stackListing []
            else moveTo self position (turned.headD []) turned.tail
        | none => noSuchPlace "pushd" word
      else if inPlace then
        modify fun shell => { shell with folders := word :: shell.folders }
        stackListing []
      else
        let word ← if word = [Ascii.minus] then pure ((← Run.value? (ascii "OLDPWD")).getD word)
          else pure word
        moveTo self position word stack

def popFolder : Builtin := fun self position arguments => do
  let shell ← get
  let inPlace := arguments.head? == some (ascii "-n")
  let arguments := if inPlace then arguments.tail else arguments
  let stack := shell.folder :: shell.folders
  let index? := match arguments with
    | [] => some (if inPlace then 1 else 0)
    | word :: _ => stackPlace? stack.length word
  match index?, shell.folders with
  | _, [] =>
      Run.complain (ascii "popd: directory stack empty")
      return 1
  | none, _ => noSuchPlace "popd" (arguments.headD [])
  | some 0, next :: rest => moveTo self position next rest
  | some (index + 1), folders =>
      modify fun shell => { shell with folders := folders.eraseIdx index }
      stackListing []

/-! The mask of new files. -/

def maskLetters (mask : Nat) : Bytes :=
  let shown := fun (bits : Nat) =>
    (if bits &&& 4 = 0 then ascii "r" else []) ++ (if bits &&& 2 = 0 then ascii "w" else []) ++
      (if bits &&& 1 = 0 then ascii "x" else [])
  ascii "u=" ++ shown (mask / 64 % 8) ++ ascii ",g=" ++ shown (mask / 8 % 8) ++ ascii ",o=" ++
    shown (mask % 8)

def setMask : Builtin := fun _ _ arguments => do
  let (letters, words) ← optionLetters "Sp" "umask" arguments
  let mask := (← Act.process).mask
  match words with
  | [] =>
      if letters.contains 83 then print (Bytes.line (maskLetters mask))
      else print (Bytes.line (Mode.octalText 4 mask))
  | text :: _ =>
      let assign := fun mask => do
        Act.modifyProcess fun process => { process with mask }
        return 0
      if startsWithDigit text then
        if text.all Mode.isOctal ∧ Mode.octal text < 512 then assign (Mode.octal text)
        else Run.fail (ascii "umask: Illegal number: " ++ text)
      else
        match Mode.parse? text with
        | some changes => assign (511 ^^^ (Mode.applyAll 0 false (511 ^^^ mask) changes % 512))
        | none => Run.fail (ascii "umask: Illegal mode: " ++ text)

end Rpn.Shell.Builtin
