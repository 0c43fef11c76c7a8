import Rpn.Tool.Entry

/-! Tools that copy and move files.  Only serves the test environment. -/

namespace Rpn.Tool

open Host

inductive Overwrite where
  | always
  | asking
  | never
  | skipping
  | newer
  deriving DecidableEq

structure CopyManner where
  recursive : Bool := false
  followTop : Bool := true
  followBelow : Bool := true
  overwrite : Overwrite := .always
  force : Bool := false
  removes : Bool := false
  verbose : Bool := false
  preserveMode : Bool := false
  preserveTimes : Bool := false
  hard : Bool := false
  symbolic : Bool := false
  backup : Bool := false
  content : Bool := false

def arrowLine (source target : Bytes) : Bytes :=
  Quoting.always source ++ ascii " -> " ++ Quoting.always target

def renamePath (source target : Bytes) : Act (Except Fault Unit) :=
  Act.tryFiles fun files folder => files.rename folder source target

/-- Whether an existing target may be replaced.  It is moved away if a copy is to be kept. -/
def mayReplace (manner : CopyManner) (source target : Node) (name : Bytes) : Run Bool := do
  match manner.overwrite with
  | .always => return true
  | .skipping | .never => return false
  | .newer => return target.modified < source.modified
  | .asking =>
      if ← confirm (ascii "overwrite " ++ Quoting.always name) then return true
      else
        Run.setStatus 1
        return false

def preserve (manner : CopyManner) (source : Node) (target : Bytes) (follow : Bool) : Run Unit := do
  if manner.preserveMode then
    modifyNode target follow fun node =>
      if isLinkNode node then node else { node with mode := source.mode }
  if manner.preserveTimes then
    modifyNode target follow fun node =>
      { node with modified := source.modified, accessed := source.accessed }

def transfer (source target : Nat) : Nat → Run (Option Fault)
  | 0 => return none
  | bound + 1 => do
      match ← Act.read source with
      | .error fault => return some fault
      | .ok [] => return none
      | .ok block =>
          match ← Act.write target block with
          | .ok () => transfer source target bound
          | .error fault => return some fault

def copyContent (manner : CopyManner) (node : Node) (source target : Bytes) (present : Bool) :
    Run Bool := do
  match ← Act.openPath source { read := true } with
  | .error fault =>
      Run.worry (ascii "cannot open " ++ Quoting.always source ++ ascii " for reading: " ++
        fault.message)
      return false
  | .ok input =>
      let mode := if isLinkNode node then 438 else node.mode % 512
      let access : Access := { write := true, create := true, truncate := true, mode }
      let opened ← match ← Act.openPath target access with
        | .error fault =>
            if manner.force ∧ present then
              match ← unlinkPath target with
              | .ok () => Act.openPath target access
              | .error _ => pure (.error fault)
            else pure (.error fault)
        | opened => pure opened
      match opened with
      | .error fault =>
          Act.close input
          let fault := if !present ∧ target.getLast? = some Ascii.slash then .notFolder else fault
          Run.worry (blame "cannot create regular file" target fault)
          return false
      | .ok output =>
          let problem ← transfer input output Act.unbounded
          Act.close input
          Act.close output
          match problem with
          | some fault =>
              Run.worry (blame "error writing" target fault)
              return false
          | none =>
              preserve manner node target true
              return true

/-- Copy an entry.  `made` are the targets of earlier arguments.  The answer is whether all went
well.  The number bounds the depth. -/
def copyEntry (manner : CopyManner) (made : List Bytes) :
    Nat → Bool → Bytes → Bytes → Run Bool
  | 0, _, _, _ => return false
  | bound + 1, top, source, target => do
      let follow := if top then manner.followTop else manner.followBelow
      match ← Act.examine source follow with
      | .error fault =>
          Run.worry (blame "cannot stat" source fault)
          return false
      | .ok (id, node) =>
          let isFolder := isFolderNode node
          if isFolder ∧ !manner.recursive then
            Run.worry (ascii "-r not specified; omitting directory " ++ Quoting.always source)
            return false
          let takesLink := !follow && isLinkNode node
          let examined ← Act.examine target (!takesLink)
          let badEnd := match examined with
            | .error .notFolder => target.getLast? == some Ascii.slash
            | _ => false
          if badEnd then
            Run.worry (blame "cannot stat" target .notFolder)
            return false
          let old? := examined.toOption
          let mut present := old?.isSome
          match old? with
          | none => pure ()
          | some (oldId, old) =>
              let oldIsFolder := isFolderNode old
              if id.isSome ∧ id = oldId ∧ !isFolder ∧ !manner.backup then
                if manner.hard then return true
                Run.worry (Quoting.always source ++ ascii " and " ++ Quoting.always target ++
                  ascii " are the same file")
                return false
              if isFolder ∧ !oldIsFolder then
                Run.worry (ascii "cannot overwrite non-directory " ++ Quoting.always target ++
                  ascii " with directory " ++ Quoting.always source)
                return false
              if !isFolder ∧ oldIsFolder then
                Run.worry (ascii "cannot overwrite directory " ++ Quoting.always target ++
                  ascii " with non-directory")
                return false
              if !isFolder then
                if made.contains target then
                  Run.worry (ascii "will not overwrite just-created " ++ Quoting.always target ++
                    ascii " with " ++ Quoting.always source)
                  return false
                if !(← mayReplace manner node old target) then return true
                if manner.backup then
                  let _ ← renamePath target (target ++ [Ascii.tilde])
                  present := false
                else if manner.removes ∨ takesLink ∨ manner.hard ∨ manner.symbolic ∨
                    (manner.recursive ∧ !manner.content ∧ FileTest.isKind 112 node) then
                  let _ ← unlinkPath target
                  present := false
          if isFolder then
            copyFolder bound source target node id present
          else
            let tell : Run Unit := if manner.verbose then Run.sayLine (arrowLine source target)
              else pure ()
            if manner.hard then
              match ← hardLink source target follow with
              | .ok () =>
                  tell
                  return true
              | .error fault =>
                  Run.worry (ascii "cannot create hard link " ++ Quoting.always target ++
                    ascii " to " ++ Quoting.always source ++ ascii ": " ++ fault.message)
                  return false
            else if manner.symbolic then
              match ← symbolicLink source target with
              | .ok () =>
                  tell
                  return true
              | .error fault =>
                  Run.worry (ascii "cannot create symbolic link " ++ Quoting.always target ++
                    ascii " to " ++ Quoting.always source ++ ascii ": " ++ fault.message)
                  return false
            else
              match node.content, takesLink with
              | .link goal, true =>
                  match ← symbolicLink goal target with
                  | .ok () =>
                      tell
                      preserve manner node target false
                      return true
                  | .error fault =>
                      Run.worry (blame "cannot create symbolic link" target fault)
                      return false
              | content, _ =>
                  let isPipe : Bool := match content with
                    | .fifo _ => true
                    | _ => false
                  if isPipe ∧ manner.recursive ∧ !manner.content then
                    Act.change fun self world =>
                      match world.files.vacancy (world.process self).folder target with
                      | .ok (folder, name) =>
                          let (pipe, world) := world.makePipe
                          let mode := world.masked self node.mode
                          let (_, files) := world.files.create folder name (.fifo pipe) mode
                          { world with files }
                      | .error _ => world
                    return true
                  else
                    let dangling := match ← node? target false with
                      | some (_, entry) => !present && isLinkNode entry
                      | none => false
                    if dangling then
                      Run.worry (ascii "not writing through dangling symlink " ++
                        Quoting.always target)
                      return false
                    else
                      tell
                      copyContent manner node source target present
where
  copyFolder (bound : Nat) (source target : Bytes) (node : Node) (id : Option NodeId)
      (present : Bool) : Run Bool := do
    let inside ← Act.look fun self world =>
      let files := world.files
      let folder := (world.process self).folder
      match files.find folder (Path.folderName (withoutTrailingSlashes target)), id with
      | .ok place, some id => files.isBelow id Files.maximalPath place
      | _, _ => false
    if inside then
      Run.worry (ascii "cannot copy a directory, " ++ Quoting.always source ++
        ascii ", into itself, " ++ Quoting.always target)
      return false
    let listed ← entryNames source
    let ready ←
      if present then pure true
      else
        match ← makeFolder target 448 with
        | .ok () =>
            if manner.verbose then Run.sayLine (arrowLine source target)
            pure true
        | .error fault =>
            Run.worry (blame "cannot create directory" target fault)
            pure false
    if !ready then return false
    let mut good := true
    let names ← match listed with
      | .ok names => pure names
      | .error fault =>
          Run.worry (blame "cannot access" source fault)
          good := false
          pure []
    for name in names do
      if !(← copyEntry manner made bound false (inFolder source name) (inFolder target name)) then
        good := false
    if !present then
      let mode ← Act.masked (node.mode % 512)
      modifyNode target true fun node => { node with mode }
    preserve manner node target true
    return good

/-! The copying tool. -/

def preserved (words : List Bytes) : Bool × Bool × Bool :=
  let named := fun (names : List String) => words.any fun word => names.any (ascii · == word)
  (named ["mode", "all"], named ["timestamps", "all"], named ["links", "all"])

def destinations (parsed : Parsed) (tool : String) : Run (List (Bytes × Bytes)) := do
  let files := parsed.operands
  if files = [] then Run.failWithHint (ascii "missing file operand")
  let missing : Run (List (Bytes × Bytes)) :=
    Run.failWithHint (ascii "missing destination file operand after " ++
      Quoting.always (files.headD []))
  let parents := parsed.has "parents"
  let into := fun (folder : Bytes) (sources : List Bytes) =>
    sources.map fun source =>
      if parents then (source, inFolder folder source)
      else
        let name := Path.baseName source
        if name = ascii ".." ∨ name = ascii "." then (source, inFolder folder name)
        else (source, inFolder folder name)
  match parsed.value? "t" with
  | some folder =>
      match ← Act.examine folder with
      | .ok (_, node) =>
          if isFolderNode node then return into folder files
          else Run.fail (blame "target directory" folder .notFolder)
      | .error fault =>
          Run.fail (blame (if tool = "install" then "failed to access" else "target directory")
            folder fault)
  | none =>
      if parsed.has "T" then
        match files with
        | [source, target] => return [(source, target)]
        | _ :: _ :: extra :: _ =>
            Run.failWithHint (ascii "extra operand " ++ Quoting.always extra)
        | _ => missing
      else
        match files with
        | [_] => missing
        | _ =>
            let target := files.getLastD []
            let sources := files.dropLast
            match ← Act.examine target with
            | .ok (_, node) =>
                if isFolderNode node then return into target sources
                else if sources.length = 1 then return sources.map (·, target)
                else Run.fail (blame "target" target .notFolder)
            | .error fault =>
                if sources.length = 1 ∧ !parents then return sources.map (·, target)
                else if parents then
                  Run.fail (ascii "with --parents, the destination must be a directory")
                else Run.fail (blame "target" target fault)

def overwriteOf (parsed : Parsed) (copying : Bool) : Overwrite :=
  match parsed.last? ["i", "n", "f", "u", "update"] with
  | some "i" => .asking
  | some "n" => if copying then .skipping else .never
  | some "u" => .newer
  | some "update" =>
      match parsed.value? "update" with
      | some word =>
          if word = ascii "none" then .skipping
          else if word = ascii "all" then .always
          else .newer
      | none => .newer
  | some "f" => if !copying then .always else if parsed.has "i" then .asking else .always
  | _ => .always

def cp : Main := fun arguments => do
  let parsed ← Run.options
    [flag ["a", "archive"], flag ["b"], perhapsValued ["backup"], flag ["d"], flag ["f", "force"],
      flag ["H"], flag ["i", "interactive"], flag ["l", "link"], flag ["L", "dereference"],
      flag ["n", "no-clobber"], flag ["P", "no-dereference"], flag ["p"],
      perhapsValued ["preserve"], valued ["no-preserve"], flag ["parents"],
      flag ["r", "R", "recursive"], flag ["remove-destination"], perhapsValued ["reflink"],
      valued ["sparse"], flag ["s", "symbolic-link"], valued ["t", "target-directory"],
      flag ["T", "no-target-directory"], flag ["u"], perhapsValued ["update"],
      flag ["v", "verbose"], flag ["x", "one-file-system"], flag ["copy-contents"],
      flag ["strip-trailing-slashes"], valued ["S", "suffix"], flag ["attributes-only"],
      perhapsValued ["Z", "context"]] arguments
  let recursive := parsed.has "r" || parsed.has "a"
  let words := (parsed.values "preserve").flatMap (·.splitOn Ascii.comma)
  let (mode, times, _) := preserved words
  let plain := parsed.has "p" || parsed.has "a" ||
    parsed.given.any fun given => given.name == "preserve" && given.argument.isNone
  let (followTop, followBelow) := match parsed.last? ["L", "P", "H", "d", "a"] with
    | some "L" => (true, true)
    | some "H" => (true, false)
    | some _ => (false, false)
    | none => (!recursive, !recursive)
  let manner : CopyManner :=
    { recursive, followTop, followBelow, overwrite := overwriteOf parsed true
      removes := parsed.has "remove-destination", verbose := parsed.has "v"
      preserveMode := plain || mode, preserveTimes := plain || times, hard := parsed.has "l"
      symbolic := parsed.has "s", backup := parsed.has "b" || parsed.has "backup"
      content := parsed.has "copy-contents", force := parsed.has "f" }
  let mut made : List Bytes := []
  for (source, target) in ← destinations parsed "cp" do
    let followTop := manner.followTop || source.getLast? == some Ascii.slash
    let quiet : Bytes → Run Unit := fun _ => pure ()
    if parsed.has "parents" then
      let _ ← makeAncestors target quiet
      pure ()
    let _ ← copyEntry { manner with followTop } made Files.maximalPath true source target
    made := target :: made
  Run.status

/-! Moving. -/

def moveEntry (manner : CopyManner) (made : List Bytes) (source target : Bytes) : Run Unit := do
  match ← Act.examine source false with
  | .error fault => Run.worry (blame "cannot stat" source fault)
  | .ok (id, node) =>
      let isFolder := isFolderNode node
      let mut proceed := true
      match ← node? target false with
      | none => pure ()
      | some (oldId, old) =>
          if id.isSome ∧ id = oldId ∧ !manner.backup then
            if isFolder then
              Run.worry (ascii "cannot move " ++ Quoting.always source ++
                ascii " to a subdirectory of itself, " ++ Quoting.always target)
            else
              Run.worry (Quoting.always source ++ ascii " and " ++ Quoting.always target ++
                ascii " are the same file")
            proceed := false
          else if isFolder ∧ !isFolderNode old then
            Run.worry (ascii "cannot overwrite non-directory " ++ Quoting.always target ++
              ascii " with directory " ++ Quoting.always source)
            proceed := false
          else if !isFolder ∧ isFolderNode old then
            Run.worry (ascii "cannot overwrite directory " ++ Quoting.always target ++
              ascii " with non-directory")
            proceed := false
          else if made.contains target ∧ !isFolder then
            Run.worry (ascii "will not overwrite just-created " ++ Quoting.always target ++
              ascii " with " ++ Quoting.always source)
            proceed := false
          else
            proceed := ← mayReplace manner node old target
            if proceed ∧ manner.backup then
              let _ ← renamePath target (target ++ [Ascii.tilde])
              pure ()
      if proceed then
        match ← renamePath source target with
        | .ok () =>
            if manner.verbose then Run.sayLine (ascii "renamed " ++ arrowLine source target)
        | .error .notEmpty => Run.worry (blame "cannot overwrite" target .notEmpty)
        | .error .invalid =>
            Run.worry (ascii "cannot move " ++ Quoting.always source ++
              ascii " to a subdirectory of itself, " ++ Quoting.always target)
        | .error fault =>
            let fault := if target.getLast? = some Ascii.slash then .notFolder else fault
            Run.worry (ascii "cannot move " ++ Quoting.always source ++ ascii " to " ++
              Quoting.always target ++ ascii ": " ++ fault.message)

def mv : Main := fun arguments => do
  let parsed ← Run.options
    [flag ["b"], perhapsValued ["backup"], flag ["f", "force"], flag ["i", "interactive"],
      flag ["n", "no-clobber"], flag ["strip-trailing-slashes"],
      valued ["t", "target-directory"], flag ["T", "no-target-directory"], flag ["u"],
      perhapsValued ["update"], flag ["v", "verbose"], valued ["S", "suffix"],
      flag ["no-copy"], flag ["exchange"], flag ["Z", "context"]] arguments
  let manner : CopyManner :=
    { overwrite := overwriteOf parsed false, verbose := parsed.has "v"
      backup := parsed.has "b" || parsed.has "backup" }
  let mut made : List Bytes := []
  for (source, target) in ← destinations parsed "mv" do
    moveEntry manner made source target
    made := target :: made
  Run.status

/-! Installing. -/

def install : Main := fun arguments => do
  let parsed ← Run.options
    [flag ["b"], perhapsValued ["backup"], flag ["c"], flag ["C", "compare"], flag ["d", "directory"], flag ["D"],
      valued ["g", "group"], valued ["m", "mode"], valued ["o", "owner"],
      flag ["p", "preserve-timestamps"], flag ["s", "strip"], valued ["S", "suffix"],
      valued ["t", "target-directory"], flag ["T", "no-target-directory"],
      flag ["v", "verbose"], perhapsValued ["Z", "context"]] arguments
  let mode := (← modeOption parsed 0 (parsed.has "d")).getD 493
  let tell : Bytes → Run Unit := fun path => if parsed.has "v" then
      Run.sayLine (ascii "install: creating directory " ++ Quoting.always path)
    else pure ()
  if parsed.has "d" then
    if parsed.operands = [] then Run.failWithHint (ascii "missing file operand")
    for path in parsed.operands do
      match ← makeAncestors path tell with
      | some (ancestor, fault) => Run.worry (blame "cannot create directory" ancestor fault)
      | none =>
          match ← makeFolder path mode with
          | .ok () => tell path
          | .error fault =>
              if ← isFolderPath path then modifyNode path true fun node => { node with mode }
              else Run.worry (blame "cannot create directory" path fault)
    Run.status
  else
    let make : Bytes → Run Unit := fun path => do
      let _ ← makeAncestors path tell
      pure ()
    if parsed.has "D" then
      match parsed.value? "t", parsed.operands with
      | some folder, _ => make (inFolder folder (ascii "x"))
      | none, [_, target] => make target
      | none, _ => pure ()
    for (source, target) in ← destinations parsed "install" do
      match ← Act.examine source with
      | .error fault => Run.worry (blame "cannot stat" source fault)
      | .ok (_, node) =>
          if isFolderNode node then
            Run.worry (ascii "omitting directory " ++ Quoting.always source)
          else
            let manner : CopyManner :=
              { removes := true, verbose := parsed.has "v", preserveTimes := parsed.has "p"
                backup := parsed.has "b" || parsed.has "backup", content := true }
            if ← copyEntry manner [] 2 true source target then
              modifyNode target true fun node => { node with mode }
    Run.status

end Rpn.Tool
