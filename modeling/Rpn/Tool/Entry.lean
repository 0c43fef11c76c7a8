import Rpn.Tool.Tree

/-! Tools that make and remove entries of the file tree.  Only serves the test environment. -/

namespace Rpn.Tool

open Host

def blame (what : String) (name : Bytes) (fault : Fault) : Bytes :=
  ascii what ++ ascii " " ++ Quoting.always name ++ ascii ": " ++ fault.message

def modeOption (parsed : Parsed) (start : Nat) (isFolder : Bool) : Run (Option Nat) := do
  match parsed.value? "m" with
  | none => return none
  | some text =>
      match Mode.parse? text with
      | some changes =>
          let mask := (← Act.process).mask
          return some (Mode.applyAll mask isFolder start changes)
      | none => Run.fail (ascii "invalid mode " ++ Quoting.plain text)

/-! Folders. -/

def makeFolder (path : Bytes) (mode : Nat) : Act (Except Fault Unit) :=
  Act.tryFiles fun files folder => files.makeFolder folder path mode

def ancestors (path : Bytes) : List Bytes :=
  let names := ((withoutTrailingSlashes path).splitOn Ascii.slash)
  let starts := (List.range names.length).map fun count => [Ascii.slash].intercalate (names.take count)
  starts.filter fun start => start ≠ [] ∧ start.getLast? ≠ some Ascii.slash

/-- Make the folders on the way that are missing.  The answer is whether all are there. -/
def makeAncestors (path : Bytes) (verbose : Bytes → Run Unit) : Run (Option (Bytes × Fault)) := do
  let mode ← Act.masked 511
  for ancestor in ancestors path do
    match ← node? ancestor with
    | some (_, node) =>
        if !isFolderNode node then return some (ancestor, .notFolder)
    | none =>
        match ← makeFolder ancestor (mode ||| 192) with
        | .ok () => verbose ancestor
        | .error fault => return some (ancestor, fault)
  return none

def mkdir : Main := fun arguments => do
  let parsed ← Run.options
    [valued ["m", "mode"], flag ["p", "parents"], flag ["v", "verbose"],
      perhapsValued ["Z", "context"]] arguments
  if parsed.operands = [] then Run.failWithHint (ascii "missing operand")
  let given? ← modeOption parsed 511 true
  let mode ← match given? with
    | some mode => pure mode
    | none => Act.masked 511
  let tell := fun (path : Bytes) => if parsed.has "v" then
      Run.sayLine (ascii "mkdir: created directory " ++ Quoting.always path)
    else pure ()
  for path in parsed.operands do
    if parsed.has "p" then
      match ← makeAncestors path tell with
      | some (ancestor, fault) => Run.worry (blame "cannot create directory" ancestor fault)
      | none =>
          match ← makeFolder path mode with
          | .ok () => tell path
          | .error fault =>
              if fault = .present ∧ (← isFolderPath path) then pure ()
              else Run.worry (blame "cannot create directory" path fault)
    else
      match ← makeFolder path mode with
      | .ok () => tell path
      | .error fault => Run.worry (blame "cannot create directory" path fault)
  Run.status

def removeFolder (path : Bytes) : Act (Except Fault Unit) :=
  Act.tryFiles fun files folder =>
    if [Ascii.dot] = Path.baseName path then .error .invalid else files.removeFolder folder path

def rmdir : Main := fun arguments => do
  let parsed ← Run.options
    [flag ["ignore-fail-on-non-empty"], flag ["p", "parents"], flag ["v", "verbose"]] arguments
  if parsed.operands = [] then Run.failWithHint (ascii "missing operand")
  for path in parsed.operands do
    let chain := if parsed.has "p" then
        withoutTrailingSlashes path :: (ancestors path).reverse
      else [path]
    let chain := if parsed.has "p" then path :: chain.drop 1 else chain
    let mut failed := false
    for folder in chain do
      if !failed then
        if parsed.has "v" then
          Run.sayLine (ascii "rmdir: removing directory, " ++ Quoting.always folder)
        match ← removeFolder folder with
        | .ok () => pure ()
        | .error fault =>
            failed := true
            if fault = .notEmpty ∧ parsed.has "ignore-fail-on-non-empty" then pure ()
            else if folder = path then Run.worry (blame "failed to remove" folder fault)
            else Run.worry (blame "failed to remove directory" folder fault)
  Run.status

/-! Removing. -/

structure RemoveManner where
  force : Bool
  recursive : Bool
  folders : Bool
  asks : Bool
  verbose : Bool

def unlinkPath (path : Bytes) : Act (Except Fault Unit) :=
  Act.tryFiles fun files folder => files.unlink folder path

/-- Remove an entry, and what is in a folder before it.  The answer is whether it is gone. -/
def removeEntry (manner : RemoveManner) : Nat → Bytes → Run Bool
  | 0, _ => return false
  | bound + 1, path => do
      match ← Act.examine (withoutTrailingSlashes path) false with
      | .error fault =>
          if manner.force ∧ (fault = .missing ∨ fault = .notFolder) then return true
          else
            Run.worry (blame "cannot remove" path fault)
            return false
      | .ok (_, node) =>
          if isFolderNode node then
            let listed ← entryNames path
            let names := listed.toOption.getD []
            if !manner.recursive ∧ !manner.folders then
              Run.worry (blame "cannot remove" path .isFolder)
              return false
            else if !manner.recursive ∧ names ≠ [] then
              Run.worry (blame "cannot remove" path .notEmpty)
              return false
            else
              if manner.asks ∧ names ≠ [] then
                if !(← confirm (ascii "descend into directory " ++ Quoting.always path)) then
                  return true
              let mut clear := true
              for name in names do
                if !(← removeEntry manner bound (inFolder path name)) then clear := false
              if !clear then return false
              if manner.asks then
                if !(← confirm (ascii "remove directory " ++ Quoting.always path)) then return true
              match ← removeFolder path with
              | .ok () =>
                  if manner.verbose then
                    Run.sayLine (ascii "removed directory " ++ Quoting.always path)
                  return true
              | .error fault =>
                  let fault := match listed with
                    | .error reason => reason
                    | .ok _ => fault
                  Run.worry (blame "cannot remove" path fault)
                  return false
          else
            if manner.asks then
              if !(← confirm (ascii "remove " ++ kindName node ++ ascii " " ++
                  Quoting.always path)) then return true
            let removed ←
              if path.getLast? = some Ascii.slash then
                let leads ← isFolderPath path
                pure (.error (if leads ∧ !manner.recursive then Fault.isFolder else .notFolder))
              else unlinkPath path
            match removed with
            | .ok () =>
                if manner.verbose then Run.sayLine (ascii "removed " ++ Quoting.always path)
                return true
            | .error fault =>
                if manner.force ∧ fault = .notFolder then return true
                Run.worry (blame "cannot remove" path fault)
                return false

def isDotName (path : Bytes) : Bool :=
  let name := Path.baseName path
  name == ascii "." || name == ascii ".."

def rmChoices : List Choice :=
  [ flag ["f", "force"], flag ["i"], flag ["I"], perhapsValued ["interactive"],
    flag ["r", "R", "recursive"], flag ["d", "dir"], flag ["v", "verbose"],
    flag ["preserve-root"], flag ["no-preserve-root"], flag ["one-file-system"] ]

def hintAtNames : List Bytes → Run Unit
  | [] => return ()
  | argument :: rest => do
      if argument.head? = some Ascii.minus ∧ (← node? argument false).isSome then
        Run.note (Bytes.line (ascii "Try '" ++ (← get).name ++ ascii " ./" ++ argument ++
          ascii "' to remove the file " ++ Quoting.always argument ++ ascii "."))
      else hintAtNames rest

def rm : Main := fun arguments => do
  let parsed ← match ← Run.parse rmChoices arguments with
    | .ok parsed => pure parsed
    | .error message =>
        Run.complain message
        hintAtNames arguments
        Run.note (Bytes.line (ascii "Try '" ++ (← get).name ++
          ascii " --help' for more information."))
        throw 1
  let last := parsed.last? ["f", "i", "I", "interactive"]
  let manner : RemoveManner :=
    { force := last == some "f", recursive := parsed.has "r", folders := parsed.has "d"
      asks := last == some "i", verbose := parsed.has "v" }
  if parsed.operands = [] then
    if manner.force then return 0 else Run.failWithHint (ascii "missing operand")
  if last = some "I" ∧ (manner.recursive ∨ 3 < parsed.operands.length) then
    let count := parsed.operands.length
    let question := ascii "remove " ++ .ofNat count ++
      ascii (if count = 1 then " argument" else " arguments") ++
      (if manner.recursive then ascii " recursively" else [])
    if !(← confirm question) then return 0
  for path in parsed.operands do
    if isDotName path ∧ manner.recursive then
      Run.worry (ascii "refusing to remove '.' or '..' directory: skipping " ++
        Quoting.always path)
    else if manner.recursive ∧ withoutTrailingSlashes path = [Ascii.slash] then
      Run.complain (ascii "it is dangerous to operate recursively on '/'")
      Run.worry (ascii "use --no-preserve-root to override this failsafe")
    else
      let _ ← removeEntry manner Files.maximalPath path
      pure ()
  Run.status

def unlinkTool : Main := fun arguments => do
  let parsed ← Run.options [] arguments
  match parsed.operands with
  | [] => Run.failWithHint (ascii "missing operand")
  | [path] =>
      match ← unlinkPath path with
      | .ok () => return 0
      | .error fault => Run.fail (blame "cannot unlink" path fault)
  | _ :: extra :: _ => Run.failWithHint (ascii "extra operand " ++ Quoting.plain extra)

/-! Links. -/

def symbolicLink (target path : Bytes) : Act (Except Fault Unit) :=
  Act.tryFiles fun files folder =>
    if target = [] then .error .missing else files.makeLink folder target path

def hardLink (source path : Bytes) (follow : Bool) : Act (Except Fault Unit) :=
  Act.tryFiles fun files folder => do
    let id ← files.find folder source follow
    if files.isFolder id then .error .notPermitted else files.makeName folder id path

def linkTool : Main := fun arguments => do
  let parsed ← Run.options [] arguments
  match parsed.operands with
  | [] => Run.failWithHint (ascii "missing operand")
  | [path] => Run.failWithHint (ascii "missing operand after " ++ Quoting.plain path)
  | [source, path] =>
      match ← hardLink source path false with
      | .ok () => return 0
      | .error fault =>
          Run.fail (ascii "cannot create link " ++ Quoting.always path ++ ascii " to " ++
            Quoting.always source ++ ascii ": " ++ fault.message)
  | _ :: _ :: extra :: _ => Run.failWithHint (ascii "extra operand " ++ Quoting.plain extra)

def relativePath (origin goal : Path) : Bytes :=
  let shared := ((origin.zip goal).takeWhile fun (left, right) => left == right).length
  let names := List.replicate (origin.length - shared) (ascii "..") ++ goal.drop shared
  if names = [] then ascii "." else Path.join names

/-! Paths without links. -/

inductive Tolerance where
  | none
  | last
  | all
  deriving DecidableEq

/-- Follow all links on the way.  `place` is the node that was reached, if there is one, and `path`
its names in reverse.  The first number bounds the steps, the second the links. -/
def canonicalFrom (files : Files) (tolerance : Tolerance) :
    Nat → Nat → Option NodeId → List Bytes → List Bytes → Except Fault Path
  | 0, _, _, _, _ => .error .manyLinks
  | _, _, _, path, [] => .ok path.reverse
  | bound + 1, links, place, path, name :: rest =>
      let isFolder := place.all files.isFolder
      if !isFolder ∧ tolerance ≠ .all then .error .notFolder
      else if name = [] ∨ name = ascii "." then canonicalFrom files tolerance bound links place path rest
      else if name = ascii ".." then
        canonicalFrom files tolerance bound links (place.map files.parent) path.tail rest
      else
        if place.any (!files.permits · User.passing) then .error .denied
        else match place.bind (files.child? · name) with
        | none =>
            let isLast := rest.all fun name => name = [] ∨ name = ascii "."
            if tolerance = .all ∨ (tolerance = .last ∧ isLast) then
              canonicalFrom files .all bound links none (name :: path) rest
            else .error .missing
        | some id =>
            match files.content id with
            | .link target =>
                if links = 0 then
                  if tolerance = .all then
                    canonicalFrom files .all bound links none (name :: path) rest
                  else .error .manyLinks
                else if Path.isAbsolute target then
                  canonicalFrom files tolerance bound (links - 1) (some Files.root) []
                    (Path.parts target ++ rest)
                else
                  canonicalFrom files tolerance bound (links - 1) place path
                    (Path.parts target ++ rest)
            | _ => canonicalFrom files tolerance bound links (some id) (name :: path) rest

def canonical (tolerance : Tolerance) (path : Bytes) : Act (Except Fault Path) :=
  Act.look fun self world =>
    let files := world.files
    let folder := (world.process self).folder
    if path = [] then .error .missing
    else if Path.isAbsolute path then
      canonicalFrom files tolerance (Files.maximalPath * 40) Files.maximalLinks
        (some Files.root) [] (Path.parts path)
    else
      canonicalFrom files tolerance (Files.maximalPath * 40) Files.maximalLinks (some folder)
        (files.pathOf folder).reverse (Path.parts path)

def absolute (path : Bytes) : Act Path :=
  Act.look fun self world =>
    let start := if Path.isAbsolute path then []
      else (world.files.pathOf (world.process self).folder).reverse
    ((Path.parts path).foldl (fun (names : List Bytes) name =>
      if name = [] ∨ name = ascii "." then names
      else if name = ascii ".." then names.tail
      else name :: names) start).reverse

def readlink : Main := fun arguments => do
  let parsed ← Run.options
    [flag ["f", "canonicalize"], flag ["e", "canonicalize-existing"],
      flag ["m", "canonicalize-missing"], flag ["n", "no-newline"], flag ["q", "quiet"],
      flag ["s", "silent"], flag ["v", "verbose"], flag ["z", "zero"]] arguments
  if parsed.operands = [] then Run.failWithHint (ascii "missing operand")
  let many := 1 < parsed.operands.length
  if many ∧ parsed.has "n" then Run.complain (ascii "ignoring --no-newline with multiple arguments")
  let ending := if parsed.has "n" ∧ !many then []
    else if parsed.has "z" then [0] else [Ascii.newline]
  for path in parsed.operands do
    let found ← match parsed.last? ["f", "e", "m"] with
      | some "f" => pure ((← canonical .last path).map Path.render)
      | some "e" => pure ((← canonical .none path).map Path.render)
      | some _ => pure ((← canonical .all path).map Path.render)
      | none =>
          match ← Act.examine path false with
          | .ok (_, { content := .link target, .. }) => pure (.ok target)
          | .ok _ => pure (.error .invalid)
          | .error fault => pure (.error fault)
    match found with
    | .ok text => Run.say (text ++ ending)
    | .error fault =>
        if parsed.has "v" then
          Run.complain (Quoting.whenNeeded path ++ ascii ": " ++ fault.message)
        Run.setStatus 1
  Run.status

def realpath : Main := fun arguments => do
  let parsed ← Run.options
    [flag ["e", "canonicalize-existing"], flag ["m", "canonicalize-missing"], flag ["L", "logical"],
      flag ["P", "physical"], flag ["q", "quiet"], flag ["s", "strip", "no-symlinks"],
      flag ["z", "zero"], valued ["relative-to"], valued ["relative-base"]] arguments
  if parsed.operands = [] then Run.failWithHint (ascii "missing operand")
  let tolerance := match parsed.last? ["e", "m"] with
    | some "e" => Tolerance.none
    | some _ => .all
    | none => .last
  let resolve := fun (path : Bytes) => do
    if parsed.has "s" then
      if path = [] then return Except.error Fault.missing else return .ok (← absolute path)
    else canonical tolerance path
  let resolveOption := fun (name : String) => do
    match parsed.value? name with
    | none => pure none
    | some path =>
        match ← resolve path with
        | .ok found => pure (some found)
        | .error fault => Run.fail (Quoting.whenNeeded path ++ ascii ": " ++ fault.message)
  let origin? ← resolveOption "relative-to"
  let base? ← resolveOption "relative-base"
  let ending := if parsed.has "z" then 0 else Ascii.newline
  for path in parsed.operands do
    match ← resolve path with
    | .ok found =>
        let shown := match origin?, base? with
          | none, none => Path.render found
          | some origin, none => relativePath origin found
          | origin?, some base =>
              if base.isPrefixOf found ∧ base.isPrefixOf (origin?.getD base) then
                relativePath (origin?.getD base) found
              else Path.render found
        Run.say (shown ++ [ending])
    | .error fault =>
        if !parsed.has "q" then
          Run.complain (Quoting.whenNeeded path ++ ascii ": " ++ fault.message)
        Run.setStatus 1
  Run.status

/-! Making links. -/

structure LinkManner where
  symbolic : Bool
  force : Bool
  asks : Bool
  verbose : Bool
  relative : Bool
  follow : Bool
  backup : Bool

def sameNode (left right : Bytes) (follow : Bool) : Run Bool := do
  match ← node? left follow, ← node? right follow with
  | some (some first, _), some (some second, _) => return first == second
  | _, _ => return false

def makeLinkAt (manner : LinkManner) (source path : Bytes) : Run Unit := do
  let kind := if manner.symbolic then "symbolic link" else "hard link"
  let source? : Option Bytes ←
    if manner.symbolic then
      if manner.relative then
        match ← canonical .all source, ← canonical .all (Path.folderName path) with
        | .ok goal, .ok origin => pure (some (relativePath origin goal))
        | _, _ => pure (some source)
      else pure (some source)
    else
      match ← Act.examine source manner.follow with
      | .error fault =>
          Run.worry (blame "failed to access" source fault)
          pure none
      | .ok (_, node) =>
          if isFolderNode node then
            Run.worry (Quoting.whenNeeded source ++
              ascii ": hard link not allowed for directory")
            pure none
          else pure (some source)
  match source? with
  | none => return ()
  | some source =>
      let exists? ← node? path false
      let mut proceed := true
      match exists? with
      | none => pure ()
      | some (_, old) =>
          if manner.force ∨ manner.asks ∨ manner.backup then
            if (← sameNode source path manner.symbolic) ∧ !manner.backup ∧
                (!manner.symbolic ∨ !isLinkNode old) then
              Run.worry (Quoting.always source ++ ascii " and " ++ Quoting.always path ++
                ascii " are the same file")
              proceed := false
            else if isFolderNode old then
              Run.worry (Quoting.whenNeeded path ++ ascii ": cannot overwrite directory")
              proceed := false
            else
              if manner.asks then
                proceed := ← confirm (ascii "replace " ++ Quoting.always path)
              if proceed then
                if manner.backup then
                  let _ ← Act.tryFiles fun files folder =>
                    files.rename folder path (path ++ [Ascii.tilde])
                  pure ()
                else
                  let _ ← unlinkPath path
                  pure ()
      if proceed then
        let result ← if manner.symbolic then symbolicLink source path
          else hardLink source path manner.follow
        match result with
        | .ok () =>
            if manner.verbose then
              let arrow := if manner.symbolic then " -> " else " => "
              Run.sayLine (Quoting.always path ++ ascii arrow ++ Quoting.always source)
        | .error fault =>
            let arrow := if manner.symbolic then " -> " else " => "
            if fault = .present ∨ manner.symbolic then
              if source = [] then
                Run.worry (ascii "failed to create " ++ ascii kind ++ ascii " " ++
                  Quoting.always path ++ ascii arrow ++ Quoting.always source ++ ascii ": " ++
                  fault.message)
              else
                Run.worry (ascii "failed to create " ++ ascii kind ++ ascii " " ++
                  Quoting.always path ++ ascii ": " ++ fault.message)
            else
              Run.worry (ascii "failed to create " ++ ascii kind ++ ascii " " ++
                Quoting.always path ++ ascii arrow ++ Quoting.always source ++ ascii ": " ++
                fault.message)

def ln : Main := fun arguments => do
  let parsed ← Run.options
    [flag ["s", "symbolic"], flag ["f", "force"], flag ["n", "no-dereference"],
      flag ["i", "interactive"], flag ["v", "verbose"], flag ["r", "relative"],
      valued ["t", "target-directory"], flag ["T", "no-target-directory"], flag ["b"],
      perhapsValued ["backup"], flag ["L", "logical"], flag ["P", "physical"],
      flag ["d", "F", "directory"], valued ["S", "suffix"]] arguments
  let last := parsed.last? ["f", "i"]
  let manner : LinkManner :=
    { symbolic := parsed.has "s", force := last == some "f", asks := last == some "i"
      verbose := parsed.has "v", relative := parsed.has "r"
      follow := parsed.last? ["L", "P"] == some "L"
      backup := parsed.has "b" || parsed.has "backup" }
  let files := parsed.operands
  if files = [] then Run.failWithHint (ascii "missing file operand")
  let into := fun (folder : Bytes) (sources : List Bytes) => do
    for source in sources do
      makeLinkAt manner source (inFolder folder (Path.baseName source))
  match parsed.value? "t" with
  | some folder =>
      if ← isFolderPath folder then into folder files
      else
        match ← Act.examine folder with
        | .ok _ =>
            Run.fail (ascii "target " ++ Quoting.always folder ++ ascii " is not a directory")
        | .error fault => Run.fail (blame "failed to access" folder fault)
  | none =>
      if parsed.has "T" then
        match files with
        | [source, path] => makeLinkAt manner source path
        | [source] =>
            Run.failWithHint (ascii "missing destination file operand after " ++
              Quoting.always source)
        | _ :: _ :: extra :: _ =>
            Run.failWithHint (ascii "extra operand " ++ Quoting.always extra)
        | [] => pure ()
      else
        match files with
        | [source] => into (ascii ".") [source]
        | _ =>
            let target := files.getLastD []
            let sources := files.dropLast
            let isFolder ← isFolderPath target (!parsed.has "n")
            if isFolder then into target sources
            else
              match sources with
              | [source] => makeLinkAt manner source target
              | _ =>
                  match ← Act.examine target with
                  | .ok _ => Run.fail (blame "target" target .notFolder)
                  | .error fault => Run.fail (blame "target" target fault)
  Run.status

/-! Pipes with names. -/

def makeFifo (path : Bytes) (mode : Nat) : Run (Except Fault Unit) :=
  Act.ask fun self world =>
    match world.files.vacancy (world.process self).folder path with
    | .error fault => (.error fault, world)
    | .ok (folder, name) =>
        let (pipe, world) := world.makePipe
        let (_, files) := world.files.create folder name (.fifo pipe) mode
        (.ok (), { world with files })

def mkfifo : Main := fun arguments => do
  let parsed ← Run.options [valued ["m", "mode"], perhapsValued ["Z", "context"]] arguments
  if parsed.operands = [] then Run.failWithHint (ascii "missing operand")
  let given? ← modeOption parsed 438 false
  let mode ← match given? with
    | some mode => pure mode
    | none => Act.masked 438
  for path in parsed.operands do
    match ← makeFifo path mode with
    | .ok () => pure ()
    | .error fault => Run.worry (blame "cannot create fifo" path fault)
  Run.status

def mknod : Main := fun arguments => do
  let parsed ← Run.options [valued ["m", "mode"], perhapsValued ["Z", "context"]] arguments
  let given? ← match parsed.value? "m" with
    | none => pure none
    | some text =>
        match Mode.parse? text with
        | some changes => pure (some (Mode.applyAll 0 false 438 changes))
        | none => Run.fail (ascii "invalid mode")
  let hint : Run Nat := do
    Run.note (Bytes.line (ascii "Try 'mknod --help' for more information."))
    return 1
  match parsed.operands with
  | [] => Run.failWithHint (ascii "missing operand")
  | [path] => Run.failWithHint (ascii "missing operand after " ++ Quoting.always path)
  | path :: kind :: numbers =>
      let isPipe := kind.head? = some 112
      let expected := if isPipe then 0 else 2
      if numbers.length < expected then
        let last := (kind :: numbers).getLastD kind
        Run.complain (ascii "missing operand after " ++ Quoting.always last)
        if numbers = [] then
          Run.note (Bytes.line (ascii "Special files require major and minor device numbers."))
        hint
      else if expected < numbers.length then
        Run.complain (ascii "extra operand " ++ Quoting.always (numbers.getD expected []))
        if isPipe ∧ numbers.length = 2 then
          Run.note (Bytes.line (ascii "Fifos do not have major and minor device numbers."))
        hint
      else if isPipe then
        let mode ← match given? with
          | some mode => pure mode
          | none => Act.masked 438
        match ← makeFifo path mode with
        | .ok () => return 0
        | .error fault => Run.fail (Quoting.whenNeeded path ++ ascii ": " ++ fault.message)
      else
        for (what, number) in ["major", "minor"].zip numbers do
          if (Bytes.toNat? number).isNone then
            Run.fail (ascii "invalid " ++ ascii what ++ ascii " device number " ++
              Quoting.always number)
        if !(ascii "bcu").contains (kind.headD 0) then
          Run.failWithHint (ascii "invalid device type " ++ Quoting.always kind)
        match ← Act.examine path false with
        | .ok _ => Run.fail (Quoting.whenNeeded path ++ ascii ": File exists")
        | .error .missing =>
            Run.fail (Quoting.whenNeeded path ++ ascii ": Operation not permitted")
        | .error fault => Run.fail (Quoting.whenNeeded path ++ ascii ": " ++ fault.message)

/-! Temporary files. -/

def drawName (seed : Nat) (count : Nat) : Bytes :=
  let letters := ascii "abcdefghijklmnopqrstuvwxyzABCDEFGHIJKLMNOPQRSTUVWXYZ0123456789"
  (World.noise seed count).map fun byte => letters.getD (byte.toNat % letters.length) 97

def mktemp : Main := fun arguments => do
  let parsed ← Run.options
    [flag ["d", "directory"], flag ["u", "dry-run"], flag ["q", "quiet"], valued ["suffix"],
      perhapsValued ["tmpdir"], valued ["p"], flag ["t"]] arguments
  let refuse : Bytes → Run Unit := fun text => do
    if !parsed.has "q" then Run.complain text
    throw 1
  let template ← match parsed.operands with
    | [] => pure (ascii "tmp.XXXXXXXXXX")
    | [template] => pure template
    | _ => Run.failWithHint (ascii "too many templates")
  let (front, suffix) ← match parsed.value? "suffix" with
    | some suffix =>
        if template.getLast? ≠ some 88 then
          refuse (ascii "with --suffix, template " ++ Quoting.plain template ++
            ascii " must end in X")
        pure (template, suffix)
    | none =>
        let suffix := (template.reverse.takeWhile (· != 88)).reverse
        pure (template.take (template.length - suffix.length), suffix)
  if suffix.contains Ascii.slash then
    refuse (ascii "invalid suffix " ++ Quoting.plain suffix ++
      ascii ", contains directory separator")
  let count := (front.reverse.takeWhile (· == 88)).length
  if count < 3 then refuse (ascii "too few X's in template " ++ Quoting.plain template)
  let start := front.take (front.length - count)
  let inTemporary := parsed.operands = [] ∨ parsed.has "t" ∨ parsed.has "tmpdir" ∨ parsed.has "p"
  let temporary ← do
    match parsed.value? "p", parsed.value? "tmpdir" with
    | some folder, _ | none, some folder =>
        if parsed.has "t" then pure ((← Run.environment? "TMPDIR").getD folder) else pure folder
    | none, none => pure ((← Run.environment? "TMPDIR").getD (ascii "/tmp"))
  let process ← Act.self
  let now ← currentTime
  let located := fun (drawn : Bytes) =>
    let name := start ++ drawn ++ suffix
    if inTemporary then inFolder temporary name else name
  let draw := fun (round : Nat) =>
    located (drawName (now + process * 7919 + round * 104729) count)
  attempt parsed (located (List.replicate count 88)) draw 100
where
  attempt (parsed : Parsed) (shown : Bytes) (draw : Nat → Bytes) : Nat → Run Nat
    | 0 => Run.fail (ascii "failed to create file")
    | bound + 1 => do
        let path := draw bound
        let kind := if parsed.has "d" then "directory" else "file"
        let made ←
          if parsed.has "u" then pure (Except.ok ())
          else if parsed.has "d" then makeFolder path 448
          else
            match ← Act.openPath path
                { read := true, write := true, create := true, exclusive := true, mode := 384 } with
            | .ok number =>
                Act.close number
                pure (.ok ())
            | .error fault => pure (.error fault)
        match made with
        | .ok () =>
            Run.sayLine path
            return 0
        | .error .present => attempt parsed shown draw bound
        | .error fault =>
            if !parsed.has "q" then
              Run.complain (ascii "failed to create " ++ ascii kind ++ ascii " via template " ++
                Quoting.plain shown ++ ascii ": " ++ fault.message)
            return 1

/-! Parts of paths. -/

def withoutSuffix (name suffix : Bytes) : Bytes :=
  if suffix ≠ name ∧ suffix.reverse.isPrefixOf name.reverse then
    name.take (name.length - suffix.length)
  else name

def basename : Main := fun arguments => do
  let parsed ← Run.options
    [flag ["a", "multiple"], valued ["s", "suffix"], flag ["z", "zero"]] arguments true
  let ending := if parsed.has "z" then 0 else Ascii.newline
  match parsed.operands with
  | [] => Run.failWithHint (ascii "missing operand")
  | names =>
      if parsed.has "a" ∨ parsed.has "s" then
        for name in names do
          Run.say (withoutSuffix (Path.baseName name) ((parsed.value? "s").getD []) ++ [ending])
        return 0
      else
        match names with
        | [name] => Run.say (Path.baseName name ++ [ending])
        | [name, suffix] => Run.say (withoutSuffix (Path.baseName name) suffix ++ [ending])
        | _ =>
            Run.failWithHint (ascii "extra operand " ++ Quoting.plain (names.getD 2 []))
        return 0

def folderText (path : Bytes) : Bytes :=
  let trimmed := (path.reverse.dropWhile (· == Ascii.slash)).reverse
  if trimmed = [] then (if path = [] then ascii "." else ascii "/")
  else
    let name := trimmed.reverse.takeWhile (· != Ascii.slash)
    let front := trimmed.take (trimmed.length - name.length)
    match (front.reverse.dropWhile (· == Ascii.slash)).reverse with
    | [] => if front = [] then ascii "." else ascii "/"
    | folder => folder

def dirname : Main := fun arguments => do
  let parsed ← Run.options [flag ["z", "zero"]] arguments
  if parsed.operands = [] then Run.failWithHint (ascii "missing operand")
  let ending := if parsed.has "z" then 0 else Ascii.newline
  for path in parsed.operands do Run.say (folderText path ++ [ending])
  return 0

def pwd : Main := fun arguments => do
  let parsed ← Run.options [flag ["L", "logical"], flag ["P", "physical"]] arguments
  if parsed.operands ≠ [] then Run.complain (ascii "ignoring non-option arguments")
  let physical ← Act.look fun self world => (world.files.pathOf (world.process self).folder).render
  Run.sayLine physical
  return 0

end Rpn.Tool
