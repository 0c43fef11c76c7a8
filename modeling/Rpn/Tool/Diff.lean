import Rpn.Tool.Diff.Output
import Rpn.Tool.Dump
import Rpn.Tool.Entry

/-! The tool that shows how files differ.  Only serves the test environment. -/

namespace Rpn.Tool.Diff

open Host Text Text.Difference

inductive Style where
  | normal
  | context
  | unified
  | side
  deriving DecidableEq

/-- What the options say.  `words` are the options themselves. -/
structure Setup where
  style : Style := .normal
  laxity : Laxity := {}
  context : Nat := 0
  columns : Columns := { half := 0, second := 0 }
  brief : Bool := false
  reportSame : Bool := false
  recursive : Bool := false
  newFile : Bool := false
  newFirst : Bool := false
  asText : Bool := false
  minimal : Bool := false
  stripReturns : Bool := false
  followLinks : Bool := true
  labels : List Bytes := []
  words : List Bytes := []

def Setup.showsSame (setup : Setup) : Bool :=
  match setup.style with
  | .side => !setup.columns.changesOnly
  | _ => false

def headingName (name : Bytes) : Bytes :=
  let escaped := name.flatMap fun byte =>
    match Char.ofNat byte.toNat with
    | '\x07' => ascii "\\a"
    | '\x08' => ascii "\\b"
    | '\t' => ascii "\\t"
    | '\n' => ascii "\\n"
    | '\x0b' => ascii "\\v"
    | '\x0c' => ascii "\\f"
    | '\r' => ascii "\\r"
    | '"' => ascii "\\\""
    | '\\' => ascii "\\\\"
    | _ => if byte < Ascii.space ∨ 128 ≤ byte then Quoting.octalEscape byte else [byte]
  if escaped ≠ name ∨ name.contains Ascii.space then
    Ascii.doubleQuote :: escaped ++ [Ascii.doubleQuote]
  else name

/-! Files. -/

/-- What is found under a name: nothing, or a file; the standard input has no name of its own. -/
inductive Found where
  | absent
  | input
  | file (id : Option NodeId) (node : Node)

namespace Found

def isFolder : Found → Bool
  | .file _ node => isFolderNode node
  | _ => false

def isAbsent : Found → Bool
  | .absent => true
  | _ => false

def isRegular : Found → Bool
  | .file _ node => FileTest.isKind 102 node
  | _ => true

def kind : Found → Bytes
  | .file _ node => kindName node
  | _ => ascii "regular file"

end Found

def readSide (path : Bytes) : Found → Run (Except Fault (Bytes × Nat))
  | .absent => return .ok ([], 0)
  | .input => do
      return (← Act.readAll 0).map fun text => (text, 0)
  | .file _ node => do
      return (← readInput path).map fun text => (text, node.modified)

def shownChanges (setup : Setup) (comparison : Comparison) : Bytes :=
  let singles := comparison.singles
  match setup.style with
  | .normal => singles.flatMap (normalHunk comparison)
  | .unified =>
      let hunks := comparison.hunks setup.context
      if hunks.isEmpty then []
      else headingLines true comparison ++ hunks.flatMap (unifiedHunk comparison)
  | .context =>
      let hunks := comparison.hunks setup.context
      if hunks.isEmpty then []
      else headingLines false comparison ++ hunks.flatMap (contextHunk comparison)
  | .side => sideHunks setup.columns comparison 0 0 singles

def isBinary (text : Bytes) : Bool :=
  (text.take 4096).contains 0

def compareTexts (setup : Setup) (inFolders : Bool) (first second : Bytes)
    (left right : Found) : Run Nat := do
  let leftRead ← readSide first left
  let rightRead ← readSide second right
  let report := fun (name : Bytes) (read : Except Fault (Bytes × Nat)) => do
    match read with
    | .error fault => Run.complain (name ++ ascii ": " ++ fault.message)
    | .ok _ => return ()
  report first leftRead
  report second rightRead
  match leftRead, rightRead with
  | .ok (leftText, leftTime), .ok (rightText, rightTime) =>
      let now ← currentTime
      let time := fun (found : Found) (given : Nat) => match found with
        | .input => now
        | _ => given
      let source := fun (name : Bytes) (index : Nat) (found : Found) (text : Bytes)
          (given : Nat) =>
        { Source.ofText name text setup.stripReturns with
          label := setup.labels[index]?, modified := time found given }
      let leftSource := source first 0 left leftText leftTime
      let rightSource := source second 1 right rightText rightTime
      let shownName := fun (kept : Source) => kept.shownName
      let lax := setup.laxity.emptyLines || setup.laxity.folded || setup.stripReturns ||
        setup.laxity.blanks != .exact
      let binary := !setup.asText && (isBinary leftText || isBinary rightText)
      if (setup.brief && !lax) || binary then
        if leftText = rightText then return ← same
        else
          Run.sayLine (ascii (if setup.brief then "Files " else "Binary files ") ++
            shownName leftSource ++ ascii " and " ++ shownName rightSource ++ ascii " differ")
          return 1
      else
        let comparison := compare setup.laxity setup.minimal setup.context leftSource rightSource
        let differs := comparison.differs
        if setup.brief then
          if differs then
            Run.sayLine (ascii "Files " ++ shownName leftSource ++ ascii " and " ++
              shownName rightSource ++ ascii " differ")
            return 1
          else same
        else
          if differs ∨ setup.showsSame then
            if inFolders then
              let options := setup.words.flatMap fun word => Ascii.space :: Quoting.forShell word
              Run.sayLine (ascii "diff" ++ options ++ Ascii.space ::
                headingName (shownName leftSource) ++ Ascii.space ::
                headingName (shownName rightSource))
            let named : Comparison :=
              { comparison with
                first := { comparison.first with name := headingName first }
                second := { comparison.second with name := headingName second } }
            Run.say (shownChanges setup named)
          if differs then return 1 else same
  | _, _ => return 2
where
  same : Run Nat := do
    if setup.reportSame then
      Run.sayLine (ascii "Files " ++ setup.labels.getD 0 first ++ ascii " and " ++
        setup.labels.getD 1 second ++ ascii " are identical")
    return 0

def look (setup : Setup) (path : Bytes) : Run (Except Fault Found) := do
  if isStandard path then return .ok .input
  else
    match ← Act.examine path setup.followLinks with
    | .ok (id, node) => return .ok (.file id node)
    | .error fault => return .error fault

def folderNames (path : Bytes) : Found → Run (Except Fault (List Bytes))
  | .absent => return .ok []
  | _ => do
      return (← entryNames path).map fun names =>
        names.mergeSort fun left right => !(right < left)

def paired : Nat → List Bytes → List Bytes → List (Option Bytes × Option Bytes)
  | 0, _, _ => []
  | _, [], rights => rights.map fun name => (none, some name)
  | _, lefts, [] => lefts.map fun name => (some name, none)
  | bound + 1, left :: lefts, right :: rights =>
      if left = right then (some left, some right) :: paired bound lefts rights
      else if left < right then (some left, none) :: paired bound lefts (right :: rights)
      else (none, some right) :: paired bound (left :: lefts) rights

/-- Compare two entries of folders, one of which may be missing.  `compare` is for what is found
under their names. -/
def compareEntry (setup : Setup) (compare : Nat → Bytes → Bytes → Found → Found → Run Nat)
    (depth : Nat) (first second : Bytes) (leftName rightName : Option Bytes) : Run Nat := do
  let only := fun (folder name : Bytes) => do
    Run.sayLine (ascii "Only in " ++ folder ++ ascii ": " ++ name)
    return 1
  let name := (leftName.or rightName).getD []
  let left := inFolder first name
  let right := inFolder second name
  let side := fun (isPresent : Bool) (path : Bytes) => do
    if isPresent then look setup path else return .ok .absent
  if rightName.isNone ∧ !setup.newFile then only first name
  else if leftName.isNone ∧ !setup.newFile ∧ !setup.newFirst then only second name
  else
    let leftFound ← side leftName.isSome left
    let rightFound ← side rightName.isSome right
    match leftFound, rightFound with
    | .ok leftFound, .ok rightFound =>
        if (leftFound.isAbsent ∨ rightFound.isAbsent) ∧ !setup.recursive ∧
            (leftFound.isFolder ∨ rightFound.isFolder) then
          only (if leftFound.isAbsent then second else first) name
        else compare (depth + 1) left right leftFound rightFound
    | leftFound, rightFound =>
        for (path, found) in [(left, leftFound), (right, rightFound)] do
          match found with
          | .error fault => Run.complain (path ++ ascii ": " ++ fault.message)
          | .ok _ => pure ()
        return 2

/-- Compare what is found under two names; `depth` counts the folders above, and the bound is for
them. -/
def compareFound (setup : Setup) :
    Nat → Nat → Bytes → Bytes → Found → Found → Run Nat
  | 0, _, _, _, _, _ => return 2
  | bound + 1, depth, first, second, left, right => do
      let foldersOnly := (left.isFolder || left.isAbsent) && (right.isFolder || right.isAbsent)
      if foldersOnly && (left.isFolder || right.isFolder) then
        if depth ≠ 0 ∧ !setup.recursive then
          Run.sayLine (ascii "Common subdirectories: " ++ first ++ ascii " and " ++ second)
          return 0
        let lefts ← folderNames first left
        let rights ← folderNames second right
        match lefts, rights with
        | .ok lefts, .ok rights =>
            let mut status := 0
            for (leftName, rightName) in paired (lefts.length + rights.length) lefts rights do
              status := max status
                (← compareEntry setup (compareFound setup bound) depth first second leftName
                  rightName)
            return status
        | _, _ =>
            for (name, names) in [(first, lefts), (second, rights)] do
              match names with
              | .error fault => Run.complain (name ++ ascii ": " ++ fault.message)
              | .ok _ => pure ()
            return 2
      else if let some (target, other) := linkTargets? left right then
        if target = other then return 0
        else
          Run.sayLine (ascii "Symbolic links " ++ first ++ ascii " and " ++ second ++
            ascii " differ")
          return 1
      else if left.isFolder || right.isFolder ||
          depth ≠ 0 && !(left.isRegular && right.isRegular) then
        Run.sayLine (ascii "File " ++ first ++ ascii " is a " ++ left.kind ++
          ascii " while file " ++ second ++ ascii " is a " ++ right.kind)
        return 1
      else
        match left, right with
        | .file (some id) _, .file (some other) _ =>
            if id = other ∧ !setup.showsSame then compareTexts.same setup first second
            else compareTexts setup (depth ≠ 0) first second left right
        | .input, .input => compareTexts.same setup first second
        | _, _ => compareTexts setup (depth ≠ 0) first second left right
where
  linkTargets? : Found → Found → Option (Bytes × Bytes)
    | .file _ left, .file _ right =>
        match left.content, right.content with
        | .link target, .link other => some (target, other)
        | _, _ => none
    | _, _ => none

def lastPart (path : Bytes) : Bytes :=
  ((withoutTrailingSlashes path).splitOn Ascii.slash).getLastD []

def compareNamed (setup : Setup) (first second : Bytes) : Run Nat := do
  let left ← look setup first
  let right ← look setup second
  let asAbsent := fun (mayBe : Bool) (found other : Except Fault Found) =>
    show Except Fault Found from match found, other with
    | .error .missing, .ok _ => if mayBe then .ok .absent else found
    | _, _ => found
  let leftFound := asAbsent (setup.newFile || setup.newFirst) left right
  let rightFound := asAbsent setup.newFile right left
  match leftFound, rightFound with
  | .ok leftFound, .ok rightFound =>
      if leftFound.isFolder ≠ rightFound.isFolder ∧ !leftFound.isAbsent ∧ !rightFound.isAbsent then
        let folder := if leftFound.isFolder then first else second
        let other := if leftFound.isFolder then second else first
        if isStandard other then
          Run.fail (ascii "cannot compare '-' to a directory") 2
        let path := inFolder folder (lastPart other)
        match ← look setup path with
        | .error fault =>
            Run.complain (path ++ ascii ": " ++ fault.message)
            return 2
        | .ok found =>
            if leftFound.isFolder then
              compareFound setup Files.maximalPath 0 path second found rightFound
            else compareFound setup Files.maximalPath 0 first path leftFound found
      else compareFound setup Files.maximalPath 0 first second leftFound rightFound
  | leftFound, rightFound =>
      for (path, found) in [(first, leftFound), (second, rightFound)] do
        match found with
        | .error fault => Run.complain (path ++ ascii ": " ++ fault.message)
        | .ok _ => pure ()
      return 2

/-! Options. -/

def choices : List Choice :=
  (["0", "1", "2", "3", "4", "5", "6", "7", "8", "9"].map fun digit => flag [digit]) ++
  [ flag ["a", "text"], flag ["b", "ignore-space-change"], flag ["B", "ignore-blank-lines"],
    flag ["c"], valued ["C"], perhapsValued ["context"], flag ["d", "minimal"],
    flag ["h"], flag ["H", "speed-large-files"], flag ["i", "ignore-case"],
    flag ["l", "paginate"], valued ["L", "label"], flag ["N", "new-file"],
    flag ["P", "unidirectional-new-file"], flag ["q", "brief"], flag ["r", "recursive"],
    flag ["s", "report-identical-files"], flag ["u"], valued ["U"], perhapsValued ["unified"],
    flag ["w", "ignore-all-space"], valued ["W", "width"], flag ["y", "side-by-side"],
    flag ["Z", "ignore-trailing-space"], flag ["normal"], flag ["binary"],
    perhapsValued ["color"], flag ["no-dereference"], flag ["strip-trailing-cr"],
    flag ["suppress-common-lines"] ]

def style? (name : String) : Option Style :=
  match name with
  | "c" | "C" | "context" => some .context
  | "u" | "U" | "unified" => some .unified
  | "y" => some .side
  | "normal" => some .normal
  | _ => none

def chosenStyle (parsed : Parsed) : Run (Option Style) := do
  let styles := parsed.given.filterMap fun given => style? given.name
  match styles with
  | [] => return none
  | style :: others =>
      if others.all (· = style) then return some style
      else refuseComparison (ascii "conflicting output style options")

def countOf (what : String) (least : Nat) (text : Bytes) : Run Nat := do
  match Bytes.toNat? text with
  | some number =>
      if least ≤ number then return number
      else refuseComparison (ascii "invalid " ++ ascii what ++ Ascii.space :: Quoting.plain text)
  | none => refuseComparison (ascii "invalid " ++ ascii what ++ Ascii.space :: Quoting.plain text)

/-- How many lines are shown around changes: as many as the options ask for, at least three
without a number; single digits make a number of their own. -/
def contextOf (parsed : Parsed) : Run Nat := do
  let mut context := 0
  let mut isGiven := false
  let mut digits : Bytes := []
  for given in parsed.given do
    let spelling := ascii given.name
    if ["C", "U", "context", "unified"].contains given.name then
      match given.argument with
      | some text =>
          context := max context (← countOf "context length" 0 text)
          isGiven := true
      | none => context := max context 3
    else if given.name = "c" ∨ given.name = "u" then context := max context 3
    else if spelling.all isDigit then digits := digits ++ spelling
  match Bytes.toNat? digits with
  | some number => return if context < number ∨ !isGiven then number else context
  | none => return context

def blanksOf (parsed : Parsed) : Blanks :=
  if parsed.has "w" then .all
  else if parsed.has "b" then .amount
  else if parsed.has "Z" then .trailing
  else .exact

def setupOf (parsed : Parsed) (words : List Bytes) : Run Setup := do
  let style := (← chosenStyle parsed).getD .normal
  let contextGiven ← contextOf parsed
  let context := match style with
    | .context | .unified => contextGiven
    | _ => 0
  let width ← match parsed.value? "W" with
    | some text => countOf "width" 1 text
    | none => pure 130
  let labels := parsed.values "L"
  if 2 < labels.length then
    Run.fail (ascii "too many file label options") 2
  return {
    style, context, labels, words
    laxity := { blanks := blanksOf parsed, folded := parsed.has "i", emptyLines := parsed.has "B" }
    columns := { Columns.ofWidth width with changesOnly := parsed.has "suppress-common-lines" }
    brief := parsed.has "q", reportSame := parsed.has "s", recursive := parsed.has "r"
    newFile := parsed.has "N", newFirst := parsed.has "P", asText := parsed.has "a"
    minimal := parsed.has "d", stripReturns := parsed.has "strip-trailing-cr"
    followLinks := !parsed.has "no-dereference" }

end Diff

open Diff in
def diff : Main := fun arguments => do
  let parsed ← match ← Run.parse choices arguments with
    | .ok parsed => pure parsed
    | .error message => refuseComparison message
  let setup ← setupOf parsed (Options.optionWords choices arguments)
  match parsed.operands with
  | [first, second] => compareNamed setup first second
  | _ :: _ :: extra :: _ => refuseComparison (ascii "extra operand " ++ Quoting.plain extra)
  | _ => do
      let last := arguments.getLastD (← get).name
      refuseComparison (ascii "missing operand after " ++ Quoting.plain last)

end Rpn.Tool
