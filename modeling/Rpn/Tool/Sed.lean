import Rpn.Text.Regex.Replace
import Rpn.Tool.Copy
import Rpn.Tool.Process
import Rpn.Tool.Sed.Script

/-! The editor of streams.  Only serves the test environment. -/

namespace Rpn.Tool.Sed

open Host Text

/-- How a stream is edited.  With `kept` files are edited themselves, and the text says how the
earlier content is kept. -/
structure Manner where
  quiet : Bool := false
  separate : Bool := false
  kept : Option Bytes := none
  follow : Bool := false
  unbuffered : Bool := false
  delimiter : UInt8 := Ascii.newline
  width : Nat := 70

structure Line where
  text : Bytes := []
  ended : Bool := true

inductive Addition where
  | text (text : Bytes)
  | file (name : Bytes)

/-- Where text goes: to the edited file or stream, to the standard output, or to a descriptor. -/
inductive Channel where
  | main
  | standard
  | descriptor (number : Nat)
  deriving DecidableEq

/-- `ranges` holds the places of the ranges that have begun, with the line at which each ends if a
number tells it.  `unended` are the channels whose last line has no delimiter yet. -/
structure Editor where
  script : Array Command
  manner : Manner
  names : List Bytes
  expressions : Nat := 0
  input : Option Nat := none
  name : Bytes := [Ascii.minus]
  pending : Bytes := []
  exhausted : Bool := false
  renewed : Bool := false
  lineNumber : Nat := 0
  space : Line := {}
  held : Line := {}
  queue : List Addition := []
  ranges : List (Nat × Option Nat) := []
  pattern : Pattern := none
  changed : Bool := false
  sources : List (Bytes × List Bytes) := []
  files : List (Bytes × Channel) := []
  edited : Option (Bytes × ByteArray) := none
  unended : List Channel := []

abbrev Edit := StateT Editor Run

/-! Output. -/

def channelOf (channel : Channel) : Edit Channel := do
  if channel = .standard ∧ (← get).manner.kept.isNone then return .main else return channel

def put (channel : Channel) (text : Bytes) : Edit Unit := do
  match channel, (← get).edited with
  | .main, some (name, content) =>
      modify fun state => { state with edited := some (name, text.foldl .push content) }
  | .main, none | .standard, _ =>
      Run.say text
      if (← get).manner.unbuffered then Run.flush
  | .descriptor number, _ =>
      let _ ← Act.write number text

def endLine (channel : Channel) : Edit Unit := do
  if (← get).unended.contains channel then
    modify fun state => { state with unended := state.unended.filter (· ≠ channel) }
    put channel [(← get).manner.delimiter]

def printText (channel : Channel) (text : Bytes) : Edit Unit := do
  let channel ← channelOf channel
  endLine channel
  put channel text

def printLine (channel : Channel) (line : Line) : Edit Unit := do
  let channel ← channelOf channel
  endLine channel
  put channel line.text
  if line.ended then put channel [(← get).manner.delimiter]
  else modify fun state => { state with unended := channel :: state.unended }

def printQueue : Edit Unit := do
  let queue := (← get).queue
  modify fun state => { state with queue := [] }
  for addition in queue do
    match addition with
    | .text text => printText .main text
    | .file name =>
        match ← Act.openPath name { read := true } with
        | .error _ => pure ()
        | .ok number =>
            let content ← Act.readAll number
            Act.close number
            match content with
            | .ok content => if content ≠ [] then printText .main content
            | .error _ => pure ()

/-! Input. -/

def finishEdited : Edit Unit := do
  let state ← get
  match state.edited with
  | none => return ()
  | some (name, content) =>
      let folder := folderText name
      let temporary := inFolder folder (ascii "sed" ++ drawName (← currentTime) 6)
      let mode := (← node? name).elim 420 fun (_, node) => node.mode
      match ← Act.openPath temporary { write := true, create := true, truncate := true } with
      | .error fault =>
          Run.fail (ascii "couldn't open temporary file " ++ temporary ++ ascii ": " ++
            fault.message) 4
      | .ok number =>
          let _ ← Act.write number content.toList
          Act.close number
          modifyNode temporary true fun node => { node with mode }
          let kept := state.manner.kept.getD []
          if kept ≠ [] then
            let base := name.drop (if name.contains Ascii.slash then folder.length + 1 else 0)
            let copy :=
              if kept.contains Ascii.asterisk then
                kept.flatMap fun byte => if byte = Ascii.asterisk then base else [byte]
              else base ++ kept
            let copy :=
              if copy.contains Ascii.slash ∨ !name.contains Ascii.slash then copy
              else inFolder folder copy
            let _ ← renamePath name copy
          let _ ← renamePath temporary name
          modify fun state => { state with
            edited := none, unended := state.unended.filter (· ≠ .main) }

def closeInput : Edit Unit := do
  let state ← get
  match state.input with
  | none => return ()
  | some number =>
      if number ≠ 0 then Act.close number
      set { state with
        input := none, pending := [], exhausted := false, renewed := state.manner.separate }
      finishEdited

def openRanges (script : Array Command) : List (Nat × Option Nat) :=
  (script.toList.zipIdx.filter (·.1.selector.fromStart)).map fun (_, place) => (place, none)

/-- Open the next file.  The answer is whether there was a name. -/
def openNext : Edit Bool := do
  match (← get).names with
  | [] => return false
  | name :: names =>
      modify fun state => { state with names }
      if (← get).renewed then
        modify fun state => { state with
          renewed := false, lineNumber := 0, held := {}, sources := []
          ranges := openRanges state.script }
        if (← get).manner.kept.isNone then endLine .main
      let manner := (← get).manner
      let opened ←
        if isStandard name ∧ manner.kept.isNone then pure (.ok 0)
        else Act.openPath name { read := true }
      match opened with
      | .error fault => Run.worry (ascii "can't read " ++ name ++ ascii ": " ++ fault.message) 2
      | .ok number =>
          if manner.kept.isSome then
            let isFile := (← node? name).any fun (_, node) => FileTest.isKind 102 node
            if isFile then
              let target ←
                if manner.follow then
                  match ← canonical .all name with
                  | .ok path => pure (Path.render path)
                  | .error _ => pure name
                else pure name
              modify fun state => { state with
                input := some number, name, edited := some (target, .empty) }
            else
              Act.close number
              Run.fail (ascii "couldn't edit " ++ name ++ ascii ": not a regular file") 4
          else modify fun state => { state with input := some number, name }
      return true

/-- Read more of the file.  The answer is whether there was more. -/
def readMore : Edit Bool := do
  let state ← get
  match state.input with
  | none => return false
  | some number =>
      if state.exhausted then return false
      match ← Act.read number (if state.manner.unbuffered then 1 else 4096) with
      | .ok [] =>
          set { state with exhausted := true }
          return false
      | .ok block =>
          set { state with pending := state.pending ++ block }
          return true
      | .error fault =>
          let shown := if number = 0 then ascii "stdin" else state.name
          Run.flush
          Run.fail (ascii "read error on " ++ shown ++ ascii ": " ++ fault.message) 4

def moreFollows : Nat → Edit Bool
  | 0 => return false
  | bound + 1 => do
      closeInput
      if !(← openNext) then return false
      if ← readMore then return true
      moreFollows bound

def isLast : Edit Bool := do
  let state ← get
  if state.pending ≠ [] then return false
  if ← readMore then return false
  if state.manner.separate then return true
  return !(← moreFollows (state.names.length + 1))

def takeLine : Nat → Edit (Option Line)
  | 0 => return none
  | bound + 1 => do
      let state ← get
      let text := state.pending.takeWhile (· != state.manner.delimiter)
      if text.length < state.pending.length then
        set { state with pending := state.pending.drop (text.length + 1) }
        return some { text }
      else if ← readMore then takeLine bound
      else if state.pending = [] then return none
      else
        modify fun state => { state with pending := [] }
        return some { text, ended := false }

def nextLine : Nat → Edit (Option Line)
  | 0 => return none
  | bound + 1 => do
      if (← get).input.isNone then
        if !(← openNext) then return none
      match ← takeLine Act.unbounded with
      | some line => return some line
      | none =>
          closeInput
          nextLine bound

/-- Read a line, in place of the text or after it.  The answer is whether there was one. -/
def readLine (behind : Bool) : Edit Bool := do
  printQueue
  modify fun state => { state with changed := false }
  match ← nextLine (2 * (← get).names.length + 2) with
  | none => return false
  | some line =>
      modify fun state => { state with
        lineNumber := state.lineNumber + 1
        space :=
          if behind then
            { line with text := state.space.text ++ state.manner.delimiter :: line.text }
          else line }
      return true

/-! Addresses. -/

def matcherOf (pattern : Pattern) : Edit Regex.Matcher := do
  match pattern with
  | some matcher =>
      modify fun state => { state with pattern := some matcher }
      return matcher
  | none =>
      match (← get).pattern with
      | some matcher => return matcher
      | none =>
          Run.flush
          Run.fail (ascii "-e expression #" ++ .ofNat (← get).expressions ++
            ascii ", char 0: no previous regular expression")

def matchesPattern (pattern : Pattern) : Edit Bool := do
  let matcher ← matcherOf pattern
  return matcher.isMatch (← get).space.text

def matchesAddress : Address → Edit Bool
  | .line number => return (← get).lineNumber == number
  | .step first every => do
      let line := (← get).lineNumber
      if every = 0 then return line == first
      return first ≤ line && (line - first) % every == 0
  | .last => isLast
  | .pattern pattern => matchesPattern pattern

def closeRange (place : Nat) : Edit Unit :=
  modify fun state => { state with ranges := state.ranges.filter (·.1 ≠ place) }

def openRange (place : Nat) (stop : Option Nat) : Edit Unit :=
  modify fun state => { state with ranges := (place, stop) :: state.ranges }

def matchesRange (place : Nat) (first : Address) (second : RangeEnd) : Edit Bool := do
  let state ← get
  match state.ranges.lookup place with
  | some (some stop) =>
      if stop ≤ state.lineNumber then closeRange place
      return state.lineNumber ≤ stop
  | some none =>
      let ends ← match second with
        | .pattern pattern => matchesPattern pattern
        | .last => isLast
        | _ => pure true
      if ends then closeRange place
      return true
  | none =>
      if !(← matchesAddress first) then return false
      let line := state.lineNumber
      let untilLine := fun (stop : Nat) => do
        if line < stop then openRange place (some stop)
      match second with
      | .line number => untilLine number
      | .count number => untilLine (line + number)
      | .multiple number =>
          if number ≠ 0 then untilLine ((line / number + 1) * number)
      | .last | .pattern _ => openRange place none
      return true

def isSelected (place : Nat) (selector : Selector) : Edit Bool := do
  let found ← match selector.first, selector.second with
    | none, _ => pure true
    | some first, none => matchesAddress first
    | some first, some second => matchesRange place first second
  return found != selector.negated

/-! Substitution. -/

/-- Change the letters of a text: the first one by `next`, the others by `mode`. -/
def applyCasing (mode next : Casing) (text : Bytes) : Bytes :=
  let change := fun (casing : Casing) (byte : UInt8) =>
    match casing with
    | .upper | .upperNext => toUpper byte
    | .lower | .lowerNext => toLower byte
    | .plain => byte
  match text with
  | [] => []
  | first :: rest =>
      change (if next = .plain then mode else next) first :: rest.map (change mode)

def replacementText (text : ByteArray) (found : Regex.Match) :
    List Part → Casing → Casing → Bytes
  | [], _, _ => []
  | part :: parts, mode, next =>
      let more := fun (piece : Bytes) =>
        applyCasing mode next piece ++
          replacementText text found parts mode (if piece = [] then next else .plain)
      match part with
      | .text piece => more piece
      | .group number => more (found.text text number)
      | .casing casing =>
          match casing with
          | .upperNext | .lowerNext => replacementText text found parts mode casing
          | _ => replacementText text found parts casing .plain

def substituted? (matcher : Regex.Matcher) (substitution : Substitution) (text : Bytes) :
    Option Bytes :=
  let data := text.toByteArray
  let make := fun (found : Regex.Match) =>
    replacementText data found substitution.parts .plain .plain
  let choice : Regex.Choice := { number := substitution.number, all := substitution.all }
  let (text, replaced) := matcher.replace choice make data
  if 0 < replaced then some text else none

/-! Commands. -/

def listed (width : Nat) : Nat → Bytes → Bytes
  | _, [] => ascii "$\n"
  | used, byte :: rest =>
      let letters := (ascii "\x07\x08\x0c\n\r\t\x0b\\").zip (ascii "abfnrtv\\")
      let shown := match letters.lookup byte with
        | some letter => [Ascii.backslash, letter]
        | none => if Quoting.isShown byte then [byte] else Quoting.octalEscape byte
      if 0 < width ∧ width < used + shown.length then
        ascii "\\\n" ++ shown ++ listed width shown.length rest
      else shown ++ listed width (used + shown.length) rest

def firstPart (delimiter : UInt8) (text : Bytes) : Bytes :=
  text.takeWhile (· != delimiter)

def fileChannel (name : Bytes) : Edit Channel :=
  return ((← get).files.lookup name).getD .main

def sourceLine? (name : Bytes) : Edit (Option Bytes) := do
  let lines ← match (← get).sources.lookup name with
    | some lines => pure lines
    | none =>
        match ← readInput name with
        | .ok content => pure (splitLines content)
        | .error _ => pure []
  modify fun state => { state with
    sources := (name, lines.tail) :: state.sources.filter (·.1 ≠ name) }
  return lines.head?

def withoutEnd (delimiter : UInt8) (text : Bytes) : Bytes :=
  if text.getLast? = some delimiter then text.dropLast else text

def setText (text : Bytes) : Edit Unit :=
  modify fun state => { state with space := { state.space with text } }

def performText : Edit Unit := do
  let state ← get
  setText (withoutEnd state.manner.delimiter (← commandOutput state.space.text))

def substitute (substitution : Substitution) : Edit Unit := do
  let matcher ← matcherOf substitution.pattern
  match substituted? matcher substitution (← get).space.text with
  | none => return ()
  | some text =>
      setText text
      modify fun state => { state with changed := true }
      if substitution.performs then performText
      if substitution.prints then printLine .main (← get).space
      match substitution.file with
      | some name => printLine (← fileChannel name) (← get).space
      | none => pure ()

inductive Next where
  | command (place : Nat)
  | cycle
  | again
  | quit (status : Nat)

def jumpTo (label : Bytes) : Edit Next := do
  let script := (← get).script
  if label = [] then return .command script.size
  return .command ((labelPlace? script.toList label).getD script.size)

def printSpace : Edit Unit := do
  let state ← get
  if !state.manner.quiet then printLine .main state.space

def perform (place : Nat) (action : Action) : Edit Next := do
  let state ← get
  let delimiter := state.manner.delimiter
  let next := Next.command (place + 1)
  match action with
  | .block _ | .blockEnd | .label _ | .nothing => return next
  | .append text =>
      modify fun state => { state with queue := state.queue ++ [.text text] }
      return next
  | .insert text =>
      printText .main text
      return next
  | .change text =>
      if (state.ranges.lookup place).isNone then printText .main text
      return .cycle
  | .jump label => jumpTo label
  | .jumpIfChanged label =>
      if !state.changed then return next
      modify fun state => { state with changed := false }
      jumpTo label
  | .jumpUnlessChanged label =>
      if !state.changed then jumpTo label
      else
        modify fun state => { state with changed := false }
        return next
  | .delete => return .cycle
  | .deleteFirst =>
      let first := firstPart delimiter state.space.text
      if first.length = state.space.text.length then return .cycle
      setText (state.space.text.drop (first.length + 1))
      return .again
  | .takeHeld =>
      modify fun state => { state with space := state.held }
      return next
  | .appendHeld =>
      modify fun state => { state with
        space := { state.held with text := state.space.text ++ delimiter :: state.held.text } }
      return next
  | .hold =>
      modify fun state => { state with held := state.space }
      return next
  | .appendHold =>
      modify fun state => { state with
        held := { state.space with text := state.held.text ++ delimiter :: state.space.text } }
      return next
  | .exchange =>
      modify fun state => { state with space := state.held, held := state.space }
      return next
  | .list width =>
      printText .main (listed (width.getD state.manner.width - 1) 0 state.space.text)
      return next
  | .next =>
      if ← isLast then
        printSpace
        return .cycle
      printSpace
      if ← readLine false then return next else return .cycle
  | .appendNext =>
      if ← isLast then
        printSpace
        return .cycle
      if ← readLine true then return next else return .cycle
  | .print =>
      printLine .main state.space
      return next
  | .printFirst =>
      let first := firstPart delimiter state.space.text
      let ended := state.space.ended || first.length < state.space.text.length
      printLine .main { text := first, ended }
      return next
  | .quit status =>
      printSpace
      printQueue
      return .quit status
  | .quitSilently status => return .quit status
  | .perform command =>
      if command = [] then performText
      else printText .main (← commandOutput command)
      return next
  | .readFile name =>
      modify fun state => { state with queue := state.queue ++ [.file name] }
      return next
  | .readLine name =>
      match ← sourceLine? name with
      | some line =>
          modify fun state => { state with queue := state.queue ++ [.text line] }
      | none => pure ()
      return next
  | .writeFile name =>
      printLine (← fileChannel name) state.space
      return next
  | .writeFirst name =>
      let first := firstPart delimiter state.space.text
      printLine (← fileChannel name) { text := first }
      return next
  | .substitute substitution =>
      substitute substitution
      return next
  | .translate table =>
      setText (state.space.text.map fun byte => (table.lookup byte).getD byte)
      return next
  | .number =>
      printText .main (Bytes.line (.ofNat state.lineNumber))
      return next
  | .fileName =>
      printText .main (Bytes.line state.name)
      return next
  | .empty =>
      setText []
      return next

def runFrom : Nat → Nat → Edit Next
  | 0, _ => return .cycle
  | bound + 1, place => do
      match (← get).script[place]? with
      | none =>
          printSpace
          return .cycle
      | some command =>
          let next ←
            if ← isSelected place command.selector then perform place command.action
            else
              match command.action with
              | .block stop => pure (Next.command stop)
              | _ => pure (Next.command (place + 1))
          match next with
          | .command place => runFrom bound place
          | next => return next

/-- Carry out the script for each line.  `fresh` says that a line is to be read first.  The number
bounds how many lines there are. -/
def runCycles : Nat → Bool → Edit Nat
  | 0, _ => return 0
  | bound + 1, fresh => do
      if fresh then
        if !(← readLine false) then return 0
      match ← runFrom Act.unbounded 0 with
      | .quit status => return status
      | .again => runCycles bound false
      | _ => runCycles bound true

def giveBack : Edit Unit := do
  let state ← get
  match state.input with
  | none => return ()
  | some number =>
      match ← Act.description? number with
      | some { target := .node _, offset, .. } =>
          Act.seek number (offset - state.pending.length)
      | _ => return ()

/-! The tool. -/

structure Piece where
  text : Bytes
  file : Option Bytes := none

def writtenFiles (script : List Command) : List Bytes :=
  (script.filterMap fun command =>
    match command.action with
    | .writeFile name | .writeFirst name => some name
    | .substitute substitution => substitution.file
    | _ => none).eraseDups

def openChannel (name : Bytes) : Run Channel := do
  if name = ascii "/dev/stdout" then return .standard
  if name = ascii "/dev/stderr" then return .descriptor 2
  match ← Act.openPath name { write := true, create := true, truncate := true } with
  | .ok number => return .descriptor number
  | .error fault =>
      Run.fail (ascii "couldn't open file " ++ name ++ ascii ": " ++ fault.message) 4

/-- Report a fault with its place in the pieces of the script; `number` is the number of the first
one among the expressions. -/
def reportFault (fault : Fault) (number : Nat) : List Piece → Nat → Run Unit
  | [], _ => Run.complain fault.message
  | piece :: pieces, place => do
      if piece.text.length < place ∧ pieces ≠ [] then
        reportFault fault (number + if piece.file.isNone then 1 else 0) pieces
          (place - (piece.text.length + 1))
      else
        match piece.file with
        | some file =>
            let line := 1 + (piece.text.take (place - 1)).count Ascii.newline
            Run.complain (ascii "file " ++ file ++ ascii " line " ++ .ofNat line ++ ascii ": " ++
              fault.message)
        | none =>
            Run.complain (ascii "-e expression #" ++ .ofNat number ++ ascii ", char " ++
              .ofNat (if fault.asWhole then 0 else min place piece.text.length) ++ ascii ": " ++
              fault.message)

def usage : Bytes :=
  ascii "Usage: sed [OPTION]... \x7bscript-only-if-no-other-script\x7d [input-file]...\n"

def choices : List Choice :=
  [ flag ["n", "quiet", "silent"], valued ["e", "expression"], valued ["f", "file"],
    flag ["E", "r", "regexp-extended"], perhapsValued ["i", "in-place"],
    valued ["l", "line-length"], flag ["posix"], flag ["s", "separate"],
    flag ["u", "unbuffered"], flag ["z", "null-data", "zero-terminated"],
    flag ["follow-symlinks"], flag ["b", "binary"], flag ["debug"] ]

def scriptFile (name : Bytes) : Run Bytes := do
  match ← readInput name with
  | .ok content => return withoutEnd Ascii.newline content
  | .error fault =>
      Run.fail (ascii "couldn't open file " ++ name ++ ascii ": " ++ fault.message) 4

end Sed

open Host Sed in
def sed : Main := fun arguments => do
  let parsed ← match ← Run.parse choices arguments with
    | .ok parsed => pure parsed
    | .error message =>
        Run.complain message
        Run.note usage
        throw 1
  let pieces ← (parsed.given.filterMapM fun given => do
    match given.name, given.argument with
    | "e", some text => return some { text : Piece }
    | "f", some name => return some { text := ← scriptFile name, file := some name : Piece }
    | _, _ => return none : Run (List Piece))
  let (pieces, names) ← match pieces, parsed.operands with
    | [], [] =>
        Run.note usage
        throw 1
    | [], script :: names => pure ([{ text := script : Piece }], names)
    | pieces, names => pure (pieces, names)
  let text := [Ascii.newline].intercalate (pieces.map (·.text))
  let script ← match Sed.read (parsed.has "E") text with
    | .ok script => pure script
    | .error fault =>
        match fault.place with
        | some place => reportFault fault 1 pieces place
        | none =>
            Run.complain fault.message
            throw 4
        throw 1
  let silent := (ascii "#n").isPrefixOf text ∧ (text.length = 2 ∨ text[2]? = some Ascii.newline)
  let inPlace := parsed.has "i"
  if inPlace ∧ names = [] then Run.fail (ascii "no input files") 4
  let manner : Manner :=
    { quiet := parsed.has "n" || silent
      separate := parsed.has "s" || inPlace
      kept := if inPlace then some ((parsed.value? "i").getD []) else none
      follow := parsed.has "follow-symlinks"
      unbuffered := parsed.has "u"
      delimiter := if parsed.has "z" then 0 else Ascii.newline
      width := ((parsed.value? "l").bind Bytes.toNat?).getD 70 }
  let mut files := []
  for name in writtenFiles script do
    files := (name, ← openChannel name) :: files
  let editor : Editor :=
    { script := script.toArray, manner, files
      names := if names = [] then [[Ascii.minus]] else names
      expressions := (pieces.filter (·.file.isNone)).length
      ranges := openRanges script.toArray }
  let finish : Edit Nat := do
    let status ← runCycles Act.unbounded true
    giveBack
    finishEdited
    return status
  let (status, _) ← finish.run editor
  if status ≠ 0 then return status else Run.status

end Rpn.Tool
