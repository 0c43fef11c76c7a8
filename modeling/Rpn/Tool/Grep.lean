import Rpn.Shell.Pattern
import Rpn.Text.Backtrack.Reader
import Rpn.Text.Regex.Reader
import Rpn.Tool.Tree

/-! The tool that shows the lines with a match.  Only serves the test environment. -/

namespace Rpn.Tool.Grep

open Host Text

inductive Kind where
  | plain
  | extended
  | fixed
  | trying
  deriving DecidableEq

inductive Finder where
  | regular (matcher : Regex.Matcher)
  | trying (pattern : Backtrack.Expr)

def Finder.search (finder : Finder) (text : ByteArray) (start : Nat := 0) : Option Regex.Match :=
  match finder with
  | .regular matcher => matcher.search text start
  | .trying pattern => pattern.search text start

inductive Report where
  | lines
  | count
  | matching
  | lacking
  | nothing
  deriving DecidableEq

inductive FolderRule where
  | refuse
  | skip
  | enter
  deriving DecidableEq

/-- How lines are chosen and shown.  `named` is decided at the first folder if it is not given. -/
structure Manner where
  finders : List Finder
  inverted : Bool := false
  report : Report := .lines
  named : Option Bool := none
  numbered : Bool := false
  placed : Bool := false
  partly : Bool := false
  before : Nat := 0
  after : Nat := 0
  separator : Option Bytes := none
  most : Option Nat := none
  quietly : Bool := false
  asText : Bool := false
  ending : UInt8 := Ascii.newline
  nameEnding : Option UInt8 := none
  tabbed : Bool := false
  coloured : Bool := false
  label : Bytes := ascii "(standard input)"
  folders : FolderRule := .refuse
  following : Bool := false
  included : List Shell.Pattern := []
  excluded : List Shell.Pattern := []
  excludedFolders : List Shell.Pattern := []

/-! Matching. -/

def earlier (left right : Option Regex.Match) : Option Regex.Match :=
  match left, right with
  | some first, some second =>
      if second.start < first.start ∨ second.start = first.start ∧ first.stop < second.stop then
        right
      else left
  | some _, none => left
  | none, _ => right

def find (manner : Manner) (text : ByteArray) (start : Nat) : Option Regex.Match :=
  (manner.finders.map (·.search text start)).foldl earlier none

def isSelected (manner : Manner) (text : ByteArray) : Bool :=
  (manner.finders.any fun finder => (finder.search text).isSome) != manner.inverted

def allMatches (manner : Manner) (text : ByteArray) : Nat → Nat → List (Nat × Nat)
  | 0, _ => []
  | bound + 1, start =>
      if text.size < start then []
      else
        match find manner text start with
        | none => []
        | some found =>
            if found.start = found.stop then allMatches manner text bound (found.stop + 1)
            else (found.start, found.stop) :: allMatches manner text bound found.stop

/-! Showing. -/

def paint (manner : Manner) (colour : String) (text : Bytes) : Bytes :=
  if !manner.coloured ∨ text = [] then text
  else
    ascii "\x1b[" ++ ascii colour ++ ascii "m\x1b[K" ++ text ++ ascii "\x1b[m\x1b[K"

def heading (manner : Manner) (name : Bytes) (mark : UInt8) (line place : Nat) : Bytes :=
  let separator := paint manner "36" [mark]
  let parts :=
    (if manner.named = some true then
      paint manner "35" name ++ manner.nameEnding.elim separator ([·])
    else []) ++
    (if manner.numbered then paint manner "32" (.ofNat line) ++ separator else []) ++
    (if manner.placed then paint manner "32" (.ofNat place) ++ separator else [])
  if manner.tabbed ∧ parts ≠ [] then parts ++ [Ascii.tab] else parts

def paintMatches (manner : Manner) (text : ByteArray) : List (Nat × Nat) → Nat → Bytes
  | [], place => (text.extract place text.size).toList
  | (start, stop) :: rest, place =>
      (text.extract place start).toList ++
        paint manner "01;31" (text.extract start stop).toList ++
        paintMatches manner text rest stop

/-- Where the search in a file stands.  `waiting` are the last lines that were not shown, in
reverse; `shownTo` is the number of the last line that was. -/
structure Progress where
  line : Nat := 0
  place : Nat := 0
  selected : Nat := 0
  waiting : List (Nat × Nat × Bytes) := []
  owed : Nat := 0
  shownTo : Nat := 0
  binary : Bool := false
  anyShown : Bool := false
  stopPlace : Option Nat := none

def showContext (manner : Manner) (name : Bytes) (line place : Nat) (text : Bytes) : Run Unit := do
  if !manner.partly then
    Run.say (heading manner name Ascii.minus line place ++ text ++ [manner.ending])

def showSelected (manner : Manner) (name : Bytes) (line place : Nat) (text : Bytes) :
    Run Unit := do
  let data := text.toByteArray
  let found := fun (_ : Unit) => allMatches manner data (data.size + 2) 0
  if manner.partly then
    if !manner.inverted then
      for (start, stop) in found () do
        Run.say (heading manner name Ascii.colon line (place + start) ++
          paint manner "01;31" (data.extract start stop).toList ++ [manner.ending])
  else
    let shown :=
      if manner.coloured ∧ !manner.inverted then paintMatches manner data (found ()) 0 else text
    Run.say (heading manner name Ascii.colon line place ++ shown ++ [manner.ending])

def showGroup (manner : Manner) (name : Bytes) (progress : Progress) (text : Bytes) :
    Run Unit := do
  let line := progress.line + 1
  let first := (progress.waiting.getLast?).elim line (·.1)
  match manner.separator with
  | some separator =>
      if progress.anyShown ∧ (progress.shownTo = 0 ∨ progress.shownTo + 1 < first) then
        if separator ≠ [0] then Run.sayLine (paint manner "36" separator)
  | none => pure ()
  for (number, place, waiting) in progress.waiting.reverse do
    showContext manner name number place waiting
  showSelected manner name line progress.place text

/-- Go past a line.  The answer tells whether the search goes on. -/
def step (manner : Manner) (name : Bytes) (progress : Progress) (text : Bytes) :
    Run (Progress × Bool) := do
  let line := progress.line + 1
  let next := progress.place + text.length + 1
  let full := manner.most.any (· ≤ progress.selected)
  let chosen := isSelected manner text.toByteArray
  if full then
    if chosen ∨ progress.owed = 0 then return (progress, false)
    showContext manner name line progress.place text
    return ({ progress with line, place := next, owed := progress.owed - 1 }, true)
  else if chosen then
    let selected := progress.selected + 1
    let stops := manner.most.any (· ≤ selected)
    let progress := { progress with
      selected, stopPlace := if stops then some next else none }
    match manner.report with
    | .matching | .lacking | .nothing => return (progress, false)
    | .count => return ({ progress with line, place := next }, !stops)
    | .lines =>
        if progress.binary then return (progress, false)
        showGroup manner name progress text
        let owed := manner.after
        return ({ progress with
          line, place := next, waiting := [], owed, shownTo := line, anyShown := true },
          !stops || 0 < owed)
  else
    if manner.report ≠ .lines ∨ progress.binary then
      return ({ progress with line, place := next }, true)
    if 0 < progress.owed then
      showContext manner name line progress.place text
      return ({ progress with
        line, place := next, owed := progress.owed - 1, shownTo := line }, true)
    let waiting := ((line, progress.place, text) :: progress.waiting).take manner.before
    return ({ progress with line, place := next, waiting }, true)

def stepAll (manner : Manner) (name : Bytes) : List Bytes → Progress → Run (Progress × Bool)
  | [], progress => return (progress, true)
  | text :: rest, progress => do
      let (progress, more) ← step manner name progress text
      if more then stepAll manner name rest progress else return (progress, false)

/-- Search an open file block by block.  `pending` is the beginning of a line.  The number bounds
how many blocks there are. -/
def searchBlocks (manner : Manner) (name : Bytes) (number : Nat) :
    Nat → Bytes → Progress → Run (Except Fault Progress)
  | 0, _, progress => return .ok progress
  | bound + 1, pending, progress => do
      match ← Act.read number 32768 with
      | .error fault => return .error fault
      | .ok [] =>
          if pending = [] then return .ok progress
          return .ok (← step manner name progress pending).1
      | .ok block =>
          let binary := progress.binary ||
            (!manner.asText && manner.ending != 0 && block.contains 0)
          let lines := (pending ++ block).splitOn manner.ending
          let (progress, more) ←
            stepAll manner name lines.dropLast { progress with binary }
          if more then searchBlocks manner name number bound (lines.getLastD []) progress
          else return .ok progress

/-! Files. -/

structure Findings where
  found : Bool := false
  failed : Bool := false
  anyShown : Bool := false
  named : Option Bool := none

abbrev Search := StateT Findings Run

def refuseFile (manner : Manner) (name : Bytes) (message : Bytes) : Search Unit := do
  if !manner.quietly then Run.complain (name ++ ascii ": " ++ message)
  modify fun findings => { findings with failed := true }

def reportFile (manner : Manner) (name : Bytes) (progress : Progress) : Search Unit := do
  let chosen := 0 < progress.selected
  let nameLine := paint manner "35" name ++ [manner.nameEnding.getD Ascii.newline]
  match manner.report with
  | .count =>
      let front :=
        if manner.named = some true then
          paint manner "35" name ++ manner.nameEnding.elim (paint manner "36" [Ascii.colon]) ([·])
        else []
      Run.sayLine (front ++ .ofNat progress.selected)
  | .matching => if chosen then Run.say nameLine
  | .lacking => if !chosen then Run.say nameLine
  | .nothing =>
      if chosen then throw 0
  | .lines =>
      if chosen ∧ progress.binary then
        Run.flush
        Run.complain (name ++ ascii ": binary file matches")

def isOutput (number : Nat) : Run Bool := do
  match ← Act.description? number, ← Act.description? 1 with
  | some { target := .node input, .. }, some { target := .node output, .. } =>
      if input ≠ output then return false
      return FileTest.isKind 102 ((← Act.files).node input)
  | _, _ => return false

def searchOpen (manner : Manner) (name : Bytes) (number : Nat) : Search Unit := do
  let manner := { manner with named := manner.named.or (← get).named }
  let start := ((← Act.description? number).map (·.offset)).getD 0
  if manner.report = .lines ∧ manner.most.all (1 < ·) ∧ (← isOutput number) then
    refuseFile manner name (ascii "input file is also the output")
  else
    match ← searchBlocks manner name number Act.unbounded []
        { anyShown := (← get).anyShown } with
    | .error fault => refuseFile manner name fault.message
    | .ok progress =>
        modify fun findings => { findings with
          found := findings.found || 0 < progress.selected, anyShown := progress.anyShown }
        match progress.stopPlace, ← Act.description? number with
        | some place, some { target := .node _, .. } =>
            if number = 0 then Act.seek number (start + place)
        | _, _ => pure ()
        reportFile manner name progress

def isAdmitted (manner : Manner) (path : Bytes) : Bool :=
  let suits := fun (pattern : Shell.Pattern) =>
    pattern.matchesWhole (Path.baseName path) || pattern.matchesWhole path
  (manner.included = [] || manner.included.any suits) && !manner.excluded.any suits

/-- Search what stands under a path.  `given` says that it was an argument.  The number bounds the
depth of folders. -/
def searchPath (manner : Manner) (given : Bool) : Nat → Bytes → Bytes → Search Unit
  | 0, _, _ => return ()
  | bound + 1, path, shown => do
      match ← Act.examine path (given || manner.following) with
      | .error fault => refuseFile manner shown fault.message
      | .ok (_, node) =>
          if isFolderNode node then
            match manner.folders with
            | .refuse => refuseFile manner shown (ascii "Is a directory")
            | .skip => return ()
            | .enter =>
                modify fun findings => { findings with named := some true }
                if given ∨ !manner.excludedFolders.any (·.matchesWhole (Path.baseName path)) then
                  let entries ← match ← entryNames path with
                    | .ok entries => pure entries
                    | .error fault =>
                        refuseFile manner shown fault.message
                        pure []
                  for entry in entries do
                    searchPath manner false bound (inFolder path entry)
                      (if shown = [] then entry else inFolder shown entry)
          else if !given ∧ !FileTest.isKind 102 node then return ()
          else if !isAdmitted manner path then return ()
          else
            match ← Act.openPath path { read := true } with
            | .error fault => refuseFile manner shown fault.message
            | .ok number =>
                searchOpen manner shown number
                Act.close number

def searchArgument (manner : Manner) (argument : Bytes) : Search Unit := do
  if isStandard argument then searchOpen manner manner.label 0
  else searchPath manner true Files.maximalPath argument argument

/-! Patterns. -/

def literal (folded : Bool) (text : Bytes) : Regex :=
  text.foldr (fun byte rest => .sequence (Regex.ofSet { folded } (Regex.oneByte byte)) rest) .empty

def hasLooseClass : Nat → Bytes → Bool
  | 0, _ => false
  | _, [] => false
  | bound + 1, byte :: rest =>
      if byte = Ascii.backslash then hasLooseClass bound (rest.drop 1)
      else if byte = Ascii.openBracket then
        let length := Regex.setLength (rest.length + 1) true rest
        let inside := (rest.take length).dropLast
        (1 < inside.length && inside.head? == some Ascii.colon &&
          inside.getLast? == some Ascii.colon) || hasLooseClass bound (rest.drop length)
      else hasLooseClass bound rest

def readPattern (kind : Kind) (folded : Bool) (text : Bytes) : Except Bytes (Regex × Bytes) := do
  match kind with
  | .fixed => return (literal folded text, [])
  | _ =>
      let form : Regex.Dialect := { extended := kind = .extended, folded, lenient := true }
      if hasLooseClass (text.length + 1) text then
        .error (ascii "character class syntax is [[:space:]], not [:space:]")
      match Regex.read form text with
      | .error fault => .error fault.message
      | .ok (regex, _) =>
          let warning := match form.extended, text with
            | true, mark :: _ =>
                if Regex.isRepeatMark mark then
                  ascii "warning: " ++ mark :: ascii " at start of expression"
                else []
            | _, _ => []
          return (regex, warning)

def bounded (words lines : Bool) (regex : Regex) : Regex :=
  if lines then .sequence (.check .lineStart) (.sequence regex (.check .lineEnd))
  else if words then
    .sequence (.check .noWordBefore) (.sequence regex (.check .noWordAfter))
  else regex

def patternLines (text : Bytes) : List Bytes :=
  text.splitOn Ascii.newline

/-! The tool. -/

def digits : List String :=
  ["0", "1", "2", "3", "4", "5", "6", "7", "8", "9"]

def choices : List Choice :=
  [ flag ["E", "extended-regexp"], flag ["F", "fixed-strings"], flag ["G", "basic-regexp"],
    flag ["P", "perl-regexp"], valued ["e", "regexp"], valued ["f", "file"],
    flag ["i", "ignore-case", "y"], flag ["no-ignore-case"], flag ["w", "word-regexp"],
    flag ["x", "line-regexp"], flag ["z", "null-data"], flag ["s", "no-messages"],
    flag ["v", "invert-match"], valued ["m", "max-count"], flag ["b", "byte-offset"],
    flag ["n", "line-number"], flag ["line-buffered"], flag ["H", "with-filename"],
    flag ["h", "no-filename"], valued ["label"], flag ["o", "only-matching"],
    flag ["q", "quiet", "silent"], valued ["binary-files"], flag ["a", "text"], flag ["I"],
    valued ["d", "directories"], valued ["D", "devices"], flag ["r", "recursive"],
    flag ["R", "dereference-recursive"], valued ["include"], valued ["exclude"],
    valued ["exclude-from"], valued ["exclude-dir"], flag ["L", "files-without-match"],
    flag ["l", "files-with-matches"], flag ["c", "count"], flag ["T", "initial-tab"],
    flag ["Z", "null"], valued ["B", "before-context"], valued ["A", "after-context"],
    valued ["C", "context"], valued ["group-separator"], flag ["no-group-separator"],
    perhapsValued ["color", "colour"], flag ["U", "binary"] ] ++
    digits.map fun digit => flag [digit]

def usage {α : Type} : Run α := do
  Run.note (ascii "Usage: grep [OPTION]... PATTERNS [FILE]...\n")
  Run.note (ascii "Try 'grep --help' for more information.\n")
  throw 2

def contextOf (parsed : Parsed) (name : String) : Run (Option Nat) := do
  match parsed.value? name with
  | none => return none
  | some text =>
      match Bytes.toNat? text with
      | some count => return some count
      | none => Run.fail (text ++ ascii ": invalid context length argument") 2

def patternTexts (parsed : Parsed) : Run (List Bytes × List Bytes) := do
  let given ← (parsed.given.filterMapM fun given => do
    match given.name, given.argument with
    | "e", some text => return some (patternLines text)
    | "f", some name =>
        match ← readInput name with
        | .ok content =>
            if content = [] then return some []
            let content :=
              if content.getLast? = some Ascii.newline then content.dropLast else content
            return some (patternLines content)
        | .error fault => Run.fail (name ++ ascii ": " ++ fault.message) 2
    | _, _ => return none : Run (List (List Bytes)))
  match given, parsed.operands with
  | [], [] => usage
  | [], text :: files => return (patternLines text, files)
  | given, files => return (given.flatten, files)

def readPatterns (parsed : Parsed) (kind : Kind) (texts : List Bytes) :
    Run (List Finder) := do
  let folded := parsed.last? ["i", "no-ignore-case"] == some "i"
  if kind = .trying then return ← readTried folded
  let mut finders := []
  for text in texts.eraseDups do
    match readPattern kind folded text with
    | .error message => Run.fail message 2
    | .ok (regex, warning) =>
        if warning ≠ [] then Run.complain warning
        finders := .regular (bounded (parsed.has "w") (parsed.has "x") regex).matcher :: finders
  return finders.reverse
where
  readTried (folded : Bool) : Run (List Finder) := do
    match texts with
    | [] => return []
    | [text] =>
        let text := if parsed.has "x" then ascii "^(?:" ++ text ++ ascii ")$"
          else if parsed.has "w" then ascii "(?<!\\w)(?:" ++ text ++ ascii ")(?!\\w)"
          else text
        match Backtrack.read { folded } text with
        | .ok pattern => return [.trying pattern]
        | .error message => Run.fail (ascii message) 2
    | _ => Run.fail (ascii "the -P option only supports a single pattern") 2

def folderRule (parsed : Parsed) : FolderRule :=
  if parsed.has "r" ∨ parsed.has "R" then .enter
  else if parsed.value? "d" = some (ascii "skip") then .skip
  else if parsed.value? "d" = some (ascii "recurse") then .enter
  else .refuse

def mannerOf (parsed : Parsed) (finders : List Finder) (files : Nat) : Run Manner := do
  let context ← contextOf parsed "C"
  let shortForm := (parsed.given.filter fun given => digits.contains given.name).flatMap
    fun given => ascii given.name
  let context := if shortForm = [] then context else some (Bytes.valueOf shortForm)
  let before := (← contextOf parsed "B").or context
  let after := (← contextOf parsed "A").or context
  let most ← match parsed.value? "m" with
    | none => pure none
    | some text =>
        match Bytes.toNat? text with
        | some count => pure (some count)
        | none => Run.fail (ascii "invalid max count") 2
  let report :=
    if parsed.has "q" then Report.nothing
    else
      match parsed.last? ["l", "L"] with
      | some "l" => .matching
      | some _ => .lacking
      | none => if parsed.has "c" then .count else .lines
  let named := match parsed.last? ["H", "h"] with
    | some "H" => some true
    | some _ => some false
    | none => if 1 < files then some true else none
  let patterns := fun (name : String) => (parsed.values name).map Shell.Pattern.ofText
  let separator :=
    if parsed.has "no-group-separator" then [0]
    else (parsed.value? "group-separator").getD (ascii "--")
  let folders := folderRule parsed
  return {
    finders, report, named, most, folders
    inverted := parsed.has "v"
    numbered := parsed.has "n"
    placed := parsed.has "b"
    partly := parsed.has "o"
    before := before.getD 0
    after := after.getD 0
    separator := if before.isSome ∨ after.isSome then some separator else none
    quietly := parsed.has "s"
    asText := parsed.has "a" || parsed.value? "binary-files" == some (ascii "text")
    ending := if parsed.has "z" then 0 else Ascii.newline
    nameEnding := if parsed.has "Z" then some 0 else none
    tabbed := parsed.has "T"
    coloured := parsed.value? "color" == some (ascii "always")
    label := (parsed.value? "label").getD (ascii "(standard input)")
    following := parsed.has "R"
    included := patterns "include"
    excluded := patterns "exclude"
    excludedFolders := patterns "exclude-dir" }

def run (kind : Kind) (arguments : List Bytes) : Run Nat := do
  let parsed ← match ← Run.parse choices arguments with
    | .ok parsed => pure parsed
    | .error message =>
        Run.complain message
        usage
  let kind := match parsed.last? ["E", "F", "G", "P"] with
    | some "E" => Kind.extended
    | some "P" => .trying
    | some "F" => .fixed
    | some _ => .plain
    | none => kind
  let (texts, files) ← patternTexts parsed
  let finders ← readPatterns parsed kind texts
  let manner ← mannerOf parsed finders files.length
  if manner.most = some 0 then return 1
  let search : Search Unit := do
    match files with
    | [] =>
        if manner.folders = .enter then searchPath manner true Files.maximalPath [Ascii.dot] []
        else searchOpen manner manner.label 0
    | files =>
        for file in files do
          searchArgument manner file
  let (_, findings) ← search.run {}
  if findings.failed then return 2
  return if findings.found then 0 else 1

end Grep

def grep : Main := Grep.run .plain

def egrep : Main := Grep.run .extended

def fgrep : Main := Grep.run .fixed

end Rpn.Tool
