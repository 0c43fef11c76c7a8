import Rpn.Text.Calendar.Reader
import Rpn.Tool.Tree

/-! Tools that change what files have beside their content: permissions, times and size.  Only
serves the test environment. -/

namespace Rpn.Tool

open Host Text

/-! Permissions. -/

structure ChmodManner where
  recursive : Bool
  silent : Bool
  showAll : Bool
  showChanges : Bool
  changes : List Mode.Change
  surprising : Bool

def modeText (mode : Nat) : Bytes :=
  Mode.octalText 4 mode ++ ascii " (" ++ Mode.text mode ++ ascii ")"

def changeMode (manner : ChmodManner) (path : Bytes) (node : Node) : Run Unit := do
  let mask := (← Act.process).mask
  let isFolder := isFolderNode node
  let mode := Mode.applyAll mask isFolder node.mode manner.changes
  match ← Act.setMode path true mode with
  | .error fault =>
      if !manner.silent then
        Run.complain (ascii "changing permissions of " ++ Quoting.always path ++ ascii ": " ++
          fault.message)
      Run.setStatus 1
  | .ok () =>
  if mode ≠ node.mode then
    if manner.showAll ∨ manner.showChanges then
      Run.sayLine (ascii "mode of " ++ Quoting.always path ++ ascii " changed from " ++
        modeText node.mode ++ ascii " to " ++ modeText mode)
  else if manner.showAll then
    Run.sayLine (ascii "mode of " ++ Quoting.always path ++ ascii " retained as " ++
      modeText mode)
  if manner.surprising then
    let expected := Mode.applyAll 0 isFolder node.mode manner.changes
    if mode &&& (4095 ^^^ expected) ≠ 0 then
      Run.worry (Quoting.whenNeeded path ++ ascii ": new permissions are " ++ Mode.text mode ++
        ascii ", not " ++ Mode.text expected)

def changeModes (manner : ChmodManner) : Nat → Bool → Bytes → Run Unit
  | 0, _, _ => return ()
  | bound + 1, top, path => do
      match ← Act.examine path false with
      | .error fault =>
          if !manner.silent then
            Run.complain (ascii "cannot access " ++ Quoting.always path ++ ascii ": " ++
              fault.message)
          Run.setStatus 1
      | .ok (_, node) =>
          if isLinkNode node then
            if !top then return ()
            match ← node? path with
            | some (_, node) => changeMode manner path node
            | none =>
                if !manner.silent then
                  Run.complain (ascii "cannot operate on dangling symlink " ++ Quoting.always path)
                Run.setStatus 1
          else
            changeMode manner path node
            if manner.recursive ∧ isFolderNode node then
              let names ← match ← entryNames path with
                | .ok names => pure names
                | .error fault =>
                    if !manner.silent then
                      Run.complain (ascii "cannot read directory " ++ Quoting.always path ++
                        ascii ": " ++ fault.message)
                    Run.setStatus 1
                    pure []
              for name in names do
                changeModes manner bound false (inFolder path name)

def isModeOption (argument : Bytes) : Bool :=
  match argument with
  | Ascii.minus :: letter :: rest =>
      (letter :: rest).all fun byte => (ascii "rwxXstugoa,+-=01234567").contains byte
  | _ => false

def chmod : Main := fun arguments => do
  let before := arguments.takeWhile (· ≠ ascii "--")
  let modes := before.filter isModeOption
  let others := before.filter (!isModeOption ·) ++ arguments.drop before.length
  let parsed ← Run.options
    [flag ["R", "recursive"], flag ["c", "changes"], flag ["f", "silent", "quiet"],
      flag ["v", "verbose"], valued ["reference"], flag ["preserve-root"],
      flag ["no-preserve-root"]] others
  let (text?, files) ← match parsed.value? "reference", modes, parsed.operands with
    | some _, _, files => pure (none, files)
    | none, [], text :: files => pure (some text, files)
    | none, [], [] => pure (none, [])
    | none, modes, files => pure (some ([Ascii.comma].intercalate modes), files)
  let changes ← match parsed.value? "reference" with
    | some reference =>
        match ← Act.examine reference with
        | .ok (_, node) =>
            pure [{ classes := {}, sign := Ascii.equals, named := .bits node.mode }]
        | .error fault =>
            Run.fail (ascii "failed to get attributes of " ++ Quoting.always reference ++
              ascii ": " ++ fault.message)
    | none =>
        match text?, files with
        | none, _ => Run.failWithHint (ascii "missing operand")
        | some text, [] =>
            if modes = [] then
              Run.failWithHint (ascii "missing operand after " ++ Quoting.plain text)
            else Run.failWithHint (ascii "missing operand")
        | some text, _ =>
            match Mode.parse? text with
            | some changes => pure changes
            | none => Run.failWithHint (ascii "invalid mode: " ++ Quoting.plain text)
  let manner : ChmodManner :=
    { recursive := parsed.has "R", silent := parsed.has "f", showAll := parsed.has "v"
      showChanges := parsed.has "c", changes, surprising := modes ≠ [] }
  for path in files do
    changeModes manner Files.maximalPath true path
  Run.status

/-! Times. -/

/-- The time of a stamp of digits: month, day, hour and minute, perhaps with a year before them and
seconds after a point. -/
def readStamp? (now : Int) (text : Bytes) : Option Int := do
  let digits := text.takeWhile isDigit
  let second ← match text.drop digits.length with
    | [] => some 0
    | [Ascii.dot, first, second] =>
        if isDigit first && isDigit second then some (Bytes.valueOf [first, second]) else none
    | _ => none
  let year ← match digits.length with
    | 8 => some (Moment.ofNanoseconds now).year
    | 10 => some (Calendar.fullYear (digits.take 2))
    | 12 => some (Bytes.valueOf (digits.take 4) : Int)
    | _ => none
  let rest := digits.drop (digits.length - 8)
  let pair := fun (index : Nat) => Bytes.valueOf ((rest.drop index).take 2)
  Calendar.complete? now
    { date := some (year, pair 0, pair 2), time := some (pair 4, pair 6, second, 0) }

def touch : Main := fun arguments => do
  let parsed ← Run.options
    [flag ["a"], flag ["c", "no-create"], valued ["d", "date"], flag ["f"],
      flag ["h", "no-dereference"], flag ["m"], valued ["r", "reference"], valued ["t"],
      valued ["time"]] arguments
  let now ← currentTime
  let word := parsed.value? "time"
  let onlyAccess := parsed.has "a" || word.any fun word =>
    [ascii "access", ascii "atime", ascii "use"].contains word
  let onlyChange := parsed.has "m" || word.any fun word =>
    [ascii "modify", ascii "mtime"].contains word
  let (setAccess, setChange) := if onlyAccess == onlyChange then (true, true)
    else (onlyAccess, onlyChange)
  let reference? ← match parsed.value? "r" with
    | none => pure none
    | some reference =>
        match ← Act.examine reference (!parsed.has "h") with
        | .ok (_, node) => pure (some node)
        | .error fault =>
            Run.fail (ascii "failed to get attributes of " ++ Quoting.always reference ++
              ascii ": " ++ fault.message)
  let given? ← match parsed.value? "t", parsed.value? "d" with
    | some stamp, _ =>
        match readStamp? now stamp with
        | some time => pure (some time)
        | none => Run.fail (ascii "invalid date format " ++ Quoting.plain stamp)
    | none, some date =>
        let base := match reference? with
          | some node => node.modified
          | none => now
        match Calendar.read? base date with
        | some time => pure (some time)
        | none => Run.fail (ascii "invalid date format " ++ Quoting.plain date)
    | none, none => pure none
  let accessed := match given?, reference? with
    | some time, _ => time.toNat
    | none, some node => node.accessed
    | none, none => now
  let modified := match given?, reference? with
    | some time, _ => time.toNat
    | none, some node => node.modified
    | none, none => now
  if parsed.operands = [] then Run.failWithHint (ascii "missing file operand")
  let follow := !parsed.has "h"
  for path in parsed.operands do
    let stamp : Run Unit := do
      let isNow := given?.isNone && reference?.isNone
      match ← Act.setTimes path follow (if setAccess then some accessed else none)
          (if setChange then some modified else none) isNow with
      | .ok () => pure ()
      | .error _ =>
          Run.worry (ascii "cannot touch " ++ Quoting.always path ++ ascii ": " ++
            Fault.denied.message)
    match ← Act.examine path follow with
    | .ok _ => stamp
    | .error fault =>
        if fault ≠ .missing then
          Run.worry (ascii "cannot touch " ++ Quoting.always path ++ ascii ": " ++ fault.message)
        else if parsed.has "c" then pure ()
        else if parsed.has "h" then
          Run.worry (ascii "setting times of " ++ Quoting.always path ++ ascii ": " ++
            Fault.missing.message)
        else
          match ← Act.openPath path { write := true, create := true } with
          | .ok number =>
              Act.close number
              stamp
          | .error .isFolder =>
              Run.worry (ascii "setting times of " ++ Quoting.always path ++ ascii ": " ++
                Fault.missing.message)
          | .error fault =>
              Run.worry (ascii "cannot touch " ++ Quoting.always path ++ ascii ": " ++
                fault.message)
  Run.status

/-! Sizes. -/

def sizeFactor? (suffix : Bytes) : Option Nat :=
  match suffix with
  | [] => some 1
  | letter :: rest =>
      match (ascii "KMGTPE").idxOf? (toUpper letter) with
      | none => none
      | some index =>
          if rest = [] ∨ rest = ascii "iB" then some (Nat.pow 1024 (index + 1))
          else if rest = ascii "B" then some (Nat.pow 1000 (index + 1))
          else none

def readSize? (text : Bytes) : Option Nat := do
  let digits := text.takeWhile isDigit
  let factor ← sizeFactor? (text.drop digits.length)
  if digits = [] then (if text = [] then none else some factor)
  else some (Bytes.valueOf digits * factor)

def newSize (relation : Option UInt8) (amount old : Nat) : Nat :=
  match relation.map fun byte => Char.ofNat byte.toNat with
  | some '+' => old + amount
  | some '-' => old - amount
  | some '<' => min old amount
  | some '>' => max old amount
  | some '/' => old / amount * amount
  | some '%' => (old + amount - 1) / amount * amount
  | _ => amount

def truncate : Main := fun arguments => do
  let parsed ← Run.options
    [flag ["c", "no-create"], flag ["o", "io-blocks"], valued ["r", "reference"],
      valued ["s", "size"]] arguments
  let size? ← match parsed.value? "s" with
    | none => pure none
    | some text =>
        let text := text.dropWhile isSpace
        let (relation, digits) := match text with
          | first :: rest =>
              if (ascii "+-<>/%").contains first then (some first, rest) else (none, text)
          | [] => (none, [])
        match readSize? (digits.dropWhile isSpace) with
        | some amount =>
            if amount = 0 ∧ (relation = some Ascii.slash ∨ relation = some Ascii.percent) then
              Run.fail (ascii "division by zero")
            else pure (some (relation, amount))
        | none => Run.fail (ascii "Invalid number: " ++ Quoting.plain text)
  if size?.isNone ∧ !parsed.has "r" then
    Run.failWithHint (ascii "you must specify either '--size' or '--reference'")
  if parsed.operands = [] then Run.failWithHint (ascii "missing file operand")
  let reference? ← match parsed.value? "r" with
    | none => pure none
    | some reference =>
        match ← Act.examine reference with
        | .ok (_, node) => pure (some (FileTest.size node))
        | .error fault =>
            Run.fail (ascii "cannot stat " ++ Quoting.always reference ++ ascii ": " ++
              fault.message)
  for path in parsed.operands do
    match ← Act.openPath path { write := true, create := !parsed.has "c" } with
    | .error fault =>
        if parsed.has "c" ∧ fault = .missing then pure ()
        else
          Run.worry (ascii "cannot open " ++ Quoting.always path ++ ascii " for writing: " ++
            fault.message)
    | .ok number =>
        let size := fun (node : Node) =>
          let (relation, amount) := size?.getD (none, reference?.getD 0)
          newSize relation amount (reference?.getD (FileTest.size node))
        Act.change fun self world =>
          match world.examine self path with
          | .ok (some id, node) => { world with files := world.files.resize id (size node) }
          | _ => world
        Act.close number
  Run.status

end Rpn.Tool
