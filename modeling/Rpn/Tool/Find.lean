import Rpn.Tool.Arguments
import Rpn.Tool.Find.Expression
import Rpn.Tool.Listing

/-! The tool that walks through folders and finds files.  Only serves the test environment. -/

namespace Rpn.Tool.Find

open Host Text

/-- A file that was found: its path, the argument it was found under, how deep it lies, and its
node. -/
structure Found where
  path : Bytes
  start : Bytes
  depth : Nat
  id : Option NodeId
  node : Node

/-- What the walk remembers.  `batches` are the files for commands that take many. -/
structure Progress where
  pruned : Bool := false
  stopped : Bool := false
  batches : List (Nat × Launch × List Bytes) := []

abbrev Walk := StateT Progress Run

/-- How links are treated: not followed, followed as arguments, or always followed. -/
structure Manner where
  following : Bool := false
  followingArguments : Bool := false
  settings : Settings := {}

def nameOf (path : Bytes) : Bytes :=
  Path.baseName path

def folderOf (path : Bytes) : Bytes :=
  let trimmed := withoutTrailingSlashes path
  if trimmed.contains Ascii.slash then
    let name := (trimmed.reverse.takeWhile (· != Ascii.slash)).length
    trimmed.take (trimmed.length - name - 1)
  else [Ascii.dot]

def letterOf (node : Node) : UInt8 :=
  let letter := kindLetter node
  if letter = Ascii.minus then 102 else letter

def targetLetter (found : Found) : Run UInt8 := do
  match ← Act.examine found.path with
  | .ok (_, node) => return letterOf node
  | .error .manyLinks => return 76
  | .error _ => return 78

/-! Formats. -/

def timeText (time : Nat) (format : Bytes) : Bytes :=
  Calendar.format (Moment.ofNanoseconds time) format

def timeDirective (time : Nat) (letter : UInt8) : Bytes :=
  let fraction := Bytes.ofNat (time % Moment.nanosPerSecond)
  let fraction := List.replicate (9 - fraction.length) Ascii.zero ++ fraction ++ [Ascii.zero]
  match Char.ofNat letter.toNat with
  | '@' => .ofNat (time / Moment.nanosPerSecond) ++ Ascii.dot :: fraction
  | 'S' => timeText time (ascii "%S") ++ Ascii.dot :: fraction
  | 'T' => timeText time (ascii "%T") ++ Ascii.dot :: fraction
  | 'X' => timeText time (ascii "%T") ++ Ascii.dot :: fraction
  | '+' => timeText time (ascii "%Y-%m-%d+%T") ++ Ascii.dot :: fraction
  | _ => timeText time [Ascii.percent, letter]

def wholeTime (time : Nat) : Bytes :=
  timeText time (ascii "%a %b %e ") ++ timeDirective time 84 ++ timeText time (ascii " %Y")

def directiveText (found : Found) (letter : UInt8) : Run Bytes := do
  let node := found.node
  match Char.ofNat letter.toNat with
  | 'p' => return found.path
  | 'f' => return nameOf found.path
  | 'h' => return folderOf found.path
  | 'H' => return found.start
  | 'P' =>
      let rest := found.path.drop found.start.length
      return if rest.head? = some Ascii.slash then rest.tail else rest
  | 'd' => return .ofNat found.depth
  | 's' => return .ofNat (FileTest.size node)
  | 'm' => return Mode.octalText 1 node.mode
  | 'M' => return permissionText node
  | 'y' => return [letterOf node]
  | 'Y' => if isLinkNode node then return [← targetLetter found] else return [letterOf node]
  | 'l' =>
      match node.content with
      | .link target => return target
      | _ => return []
  | 'n' =>
      match found.id with
      | some id => return .ofNat (linkCount (← Act.files) id)
      | none => return ascii "1"
  | 'i' => return .ofNat (found.id.getD 0 + 1000)
  | 'k' => return .ofNat (roomOf node)
  | 'b' => return .ofNat (2 * roomOf node)
  | 'u' => return Account.userName node.owner
  | 'g' => return Account.groupName node.group
  | 'U' => return .ofNat node.owner
  | 'G' => return .ofNat node.group
  | 't' | 'c' => return wholeTime node.modified
  | 'a' => return wholeTime node.accessed
  | _ => return [Ascii.percent, letter]

def formatText (found : Found) : Nat → Bytes → Run Bytes
  | 0, _ => return []
  | _, [] => return []
  | bound + 1, byte :: rest => do
      if byte = Ascii.backslash then
        match rest with
        | [] => return [byte]
        | letter :: after =>
            if letter = 99 then return []
            match Escape.read {} rest with
            | .bytes text after => return text ++ (← formatText found bound after)
            | _ => return byte :: letter :: (← formatText found bound after)
      else if byte = Ascii.percent then
        let (directive, after) := Directive.readSizes rest
        match after with
        | [] => return [byte]
        | letter :: after =>
            if letter = Ascii.percent then
              return Ascii.percent :: (← formatText found bound after)
            match Char.ofNat letter.toNat, after with
            | 'T', which :: after | 'C', which :: after =>
                return directive.text (timeDirective found.node.modified which) ++
                  (← formatText found bound after)
            | 'A', which :: after =>
                return directive.text (timeDirective found.node.accessed which) ++
                  (← formatText found bound after)
            | _, _ =>
                return directive.text (← directiveText found letter) ++
                  (← formatText found bound after)
      else return byte :: (← formatText found bound rest)

/-! Evaluation. -/

/-- Run a command, perhaps in another folder.  The answer tells whether it succeeds. -/
def runCommand (command : List Bytes) (folder : Option Bytes) : Run Bool := do
  let name := (← get).name
  let program ← commandProgram (do
      match folder with
      | none => pure ()
      | some folder =>
          let _ ← Act.enterFolder folder
          pure ()) command
    fun fault => name ++ ascii ": " ++ Quoting.always (command.headD []) ++ ascii ": " ++
      fault.message
  Run.flush
  return (← Act.runChild program) == .exited 0

def withPath (command : List Bytes) (path : Bytes) : List Bytes :=
  command.map fun word => Arguments.replaceAll (ascii "\x7b\x7d") path (word.length + 1) word

def localPath (path : Bytes) : Bytes :=
  if path.contains Ascii.slash then ascii "./" ++ nameOf path else ascii "./" ++ path

def runEach (launch : Launch) (found : Found) : Run Bool := do
  let path := if launch.inFolder then localPath found.path else found.path
  runCommand (withPath launch.command path) (if launch.inFolder then some (folderOf found.path) else none)

def ageHolds (now time : Nat) (range : Range) (unit : Nat) : Bool :=
  range.holds ((now - time) / (unit * Moment.nanosPerSecond))

def lowered (folded : Bool) (text : Bytes) : Bytes :=
  if folded then text.map toLower else text

def permissionHolds (mode : Nat) : Permission → Bool
  | .exactly wanted => mode == wanted
  | .all wanted => mode &&& wanted == wanted
  | .some wanted => wanted == 0 || mode &&& wanted != 0

def deleteFound (found : Found) : Run Bool := do
  if found.path = [Ascii.dot] then return true
  let removed ←
    if isFolderNode found.node then removeFolder found.path else unlinkPath found.path
  match removed with
  | .ok () => return true
  | .error fault =>
      Run.worry (ascii "cannot delete " ++ Quoting.always found.path ++ ascii ": " ++
        fault.message)
      return false

def evaluate (found : Found) : Expression → Walk Bool
  | .always => return true
  | .never => return false
  | .negation inner => return !(← evaluate found inner)
  | .conjunction first second => do
      if ← evaluate found first then
        if (← get).stopped then return false
        evaluate found second
      else return false
  | .disjunction first second => do
      if ← evaluate found first then return true
      if (← get).stopped then return false
      evaluate found second
  | .sequence first second => do
      let _ ← evaluate found first
      if (← get).stopped then return false
      evaluate found second
  | .kind letters ofTarget => do
      let letter ←
        if ofTarget ∧ isLinkNode found.node then
          let letter ← targetLetter found
          pure (if isLetter letter ∧ isUpper letter then 108 else letter)
        else pure (letterOf found.node)
      return letters.contains letter
  | .name pattern folded => return pattern.matchesWhole (lowered folded (nameOf found.path))
  | .path pattern folded => return pattern.matchesWhole (lowered folded found.path)
  | .regex matcher => return matcher.isMatch found.path
  | .size range unit => return range.holds ((FileTest.size found.node + unit - 1) / unit)
  | .empty => do
      match found.node.content with
      | .folder _ entries => return entries.isEmpty
      | .file data => return data.size == 0
      | _ => return false
  | .permission permission => return permissionHolds found.node.mode permission
  | .newer stamp time => return time < stampOf stamp found.node
  | .age stamp range unit => do
      return ageHolds (← currentTime) (stampOf stamp found.node) range unit
  | .links range => do
      match found.id with
      | some id => return range.holds (linkCount (← Act.files) id)
      | none => return range.holds 1
  | .node range => return range.holds (found.id.getD 0 + 1000)
  | .access letter => return FileTest.holds (← Act.user) letter found.node
  | .prune => do
      modify fun progress => { progress with pruned := true }
      return true
  | .quit => do
      modify fun progress => { progress with stopped := true }
      return true
  | .print ending => do
      Run.say (found.path ++ [ending])
      return true
  | .format format => do
      Run.say (← formatText found (format.length + 1) format)
      return true
  | .delete => deleteFound found
  | .each launch => runEach launch found
  | .many place launch => do
      let path := if launch.inFolder then localPath found.path else found.path
      modify fun progress =>
        let old := ((progress.batches.find? (·.1 == place)).map (·.2.2)).getD []
        { progress with
          batches := progress.batches.filter (·.1 != place) ++ [(place, launch, old ++ [path])] }
      return true

def walk (manner : Manner) (expression : Expression) (start : Bytes) : Nat → Nat → Bytes → Walk Unit
  | 0, _, _ => return ()
  | bound + 1, depth, path => do
      if (← get).stopped then return ()
      let follow := manner.following || (depth == 0 && manner.followingArguments)
      let examined ← match ← Act.examine path follow with
        | .ok found => pure (Except.ok found)
        | .error fault => if follow then Act.examine path false else pure (.error fault)
      match examined with
      | .error fault =>
          if depth ≠ 0 ∧ fault = .denied then
            let found : Found := { path, start, depth, id := none, node := default }
            let _ ← evaluate found expression
          else Run.worry (Quoting.always path ++ ascii ": " ++ fault.message)
      | .ok (id, node) =>
          let found : Found := { path, start, depth, id, node }
          let settings := manner.settings
          let visit : Walk Unit := do
            if settings.least ≤ depth then
              let _ ← evaluate found expression
          modify fun progress => { progress with pruned := false }
          if !settings.depthFirst then visit
          let pruned := (← get).pruned && !settings.depthFirst
          if isFolderNode node ∧ !pruned ∧ settings.most.all (depth < ·) then
            let names ← match ← entryNames path with
              | .ok names => pure names
              | .error fault =>
                  Run.worry (Quoting.always path ++ ascii ": " ++ fault.message)
                  pure []
            for name in names do
              walk manner expression start bound (depth + 1) (inFolder path name)
          if settings.depthFirst ∧ !(← get).stopped then visit

def runBatches (batches : List (Nat × Launch × List Bytes)) : Run Unit := do
  for (_, launch, paths) in batches do
    if !(← runCommand (launch.command ++ paths) none) then Run.setStatus 1

def isPathWord (word : Bytes) : Bool :=
  match word with
  | Ascii.minus :: _ :: _ => false
  | _ => !(isClosing word || isComma word || isNot word || word == ascii "(")

def leadingOptions (manner : Manner) : List Bytes → Manner × List Bytes
  | word :: rest =>
      if word = ascii "-L" then
        leadingOptions { manner with following := true, followingArguments := true } rest
      else if word = ascii "-H" then
        leadingOptions { manner with following := false, followingArguments := true } rest
      else if word = ascii "-P" then
        leadingOptions { manner with following := false, followingArguments := false } rest
      else if (ascii "-O").isPrefixOf word then leadingOptions manner rest
      else (manner, word :: rest)
  | [] => (manner, [])

end Find

open Host Find in
def find : Main := fun arguments => do
  let (manner, rest) := leadingOptions {} arguments
  let paths := rest.takeWhile isPathWord
  let (expression, settings) ← Find.read (rest.drop paths.length)
  let manner := { manner with
    settings
    following := manner.following || rest.contains (ascii "-follow") }
  let paths := if paths = [] then [[Ascii.dot]] else paths
  let all : Walk Unit := do
    for path in paths do
      walk manner expression path Files.maximalPath 0 path
  let (_, progress) ← all.run {}
  runBatches progress.batches
  Run.status

end Rpn.Tool
