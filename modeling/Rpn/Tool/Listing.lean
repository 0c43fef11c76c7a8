import Rpn.Shell.Pattern
import Rpn.Text.Calendar
import Rpn.Text.Directive
import Rpn.Text.Escape
import Rpn.Text.Ordering
import Rpn.Tool.Entry

/-! Tools that show what the file tree holds.  Only serves the test environment. -/

namespace Rpn.Tool

open Host Text

/-! Facts about nodes. -/

def linkCount (files : Files) (id : NodeId) : Nat :=
  if files.isFolder id then
    2 + ((files.entries id).filter fun (_, child) => files.isFolder child).length
  else (files.node id).links

def roomOf (node : Node) : Nat :=
  match node.content with
  | .file data => (data.size + 4095) / 4096 * 4
  | .folder _ _ => 4
  | _ => 0

def kindLetter (node : Node) : UInt8 :=
  match node.content with
  | .folder _ _ | .processes => 100
  | .link _ => 108
  | .device _ => 99
  | .fifo _ => 112
  | .file _ | .tool _ => Ascii.minus

def kindNumber (node : Node) : Nat :=
  match node.content with
  | .folder _ _ | .processes => 16384
  | .link _ => 40960
  | .device _ => 8192
  | .fifo _ => 4096
  | .file _ | .tool _ => 32768

def permissionText (node : Node) : Bytes :=
  kindLetter node :: Mode.text node.mode

def deviceNumbers (node : Node) : Nat × Nat :=
  match node.content with
  | .device .null => (1, 3)
  | .device .zero => (1, 5)
  | .device .full => (1, 7)
  | .device .random => (1, 9)
  | .device .terminal => (5, 0)
  | _ => (0, 0)

def humanSize (base : Nat) (size : Nat) : Bytes :=
  scale (ascii "KMGTPE") size 1
where
  scale : Bytes → Nat → Nat → Bytes
    | [], size, unit => .ofNat (size / unit)
    | letter :: letters, size, unit =>
        if size < base * unit then
          if unit = 1 then .ofNat size else .ofNat ((size + unit - 1) / unit)
        else
          let unit := unit * base
          let tenths := (size * 10 + unit - 1) / unit
          if tenths < 100 then
            Bytes.ofNat (tenths / 10) ++ Ascii.dot :: Bytes.ofNat (tenths % 10) ++ [letter]
          else if (size + unit - 1) / unit < base then .ofNat ((size + unit - 1) / unit) ++ [letter]
          else scale letters size unit

/-! Listing folders. -/

structure Listed where
  name : Bytes
  path : Bytes
  id : Option NodeId
  node : Node
  links : Nat
  unknown : Bool := false

structure ListManner where
  long : Bool
  oneEach : Bool
  columns : Bool
  across : Bool
  commas : Bool
  all : Bool
  almostAll : Bool
  reverse : Bool
  sort : Char
  recursive : Bool
  classify : Option Char
  inode : Bool
  room : Bool
  human : Bool
  numeric : Bool
  owner : Bool
  group : Bool
  quoting : String
  width : Nat
  style : Option Bytes
  follow : Bool
  hidden : List Bytes
  foldersFirst : Bool
  accessTime : Bool

def examineListed (manner : ListManner) (name path : Bytes) (follow : Bool) :
    Run (Except Fault Listed) := do
  let found ← Act.examine path (follow || manner.follow)
  let found ← match found with
    | .error fault =>
        if manner.follow ∧ !follow then
          Act.examine path false
        else pure (.error fault)
    | found => pure found
  match found with
  | .error fault => return .error fault
  | .ok (id, node) =>
      let files ← Act.files
      let links := match id with
        | some id => linkCount files id
        | none => 1
      return .ok { name, path, id, node, links }

def extension (name : Bytes) : Bytes :=
  let ending := (name.reverse.takeWhile (· != Ascii.dot)).reverse
  if ending.length = name.length then [] else Ascii.dot :: ending

def timeOf (manner : ListManner) (node : Node) : Nat :=
  if manner.accessTime then node.accessed else node.modified

def listedOrder (manner : ListManner) (left right : Listed) : Ordering :=
  let byName := fun (_ : Unit) => Ordering.bytes left.name right.name
  match manner.sort with
  | 'S' => Ordering.refine (compare (FileTest.size right.node) (FileTest.size left.node)) byName
  | 't' => Ordering.refine (compare (timeOf manner right.node) (timeOf manner left.node)) byName
  | 'X' => Ordering.refine (Ordering.bytes (extension left.name) (extension right.name)) byName
  | 'v' => Ordering.refine (Ordering.versions left.name right.name) byName
  | 'U' => .eq
  | _ => byName ()

def sortListed (manner : ListManner) (entries : List Listed) : List Listed :=
  let sorted := if manner.sort = 'U' then entries
    else
      let sorted := entries.mergeSort fun left right => listedOrder manner left right != .gt
      if manner.reverse then sorted.reverse else sorted
  if manner.foldersFirst then
    sorted.filter (fun entry => isFolderNode entry.node) ++
      sorted.filter (fun entry => !isFolderNode entry.node)
  else sorted

/-! How names are shown. -/

def doubleQuoted (name : Bytes) : Bytes :=
  Ascii.doubleQuote :: (name.flatMap fun byte =>
    if byte = Ascii.doubleQuote ∨ byte = Ascii.backslash then [Ascii.backslash, byte]
    else if Quoting.isShown byte then [byte]
    else Quoting.octalEscape byte) ++ [Ascii.doubleQuote]

def escapedName (name : Bytes) : Bytes :=
  name.flatMap fun byte =>
    if byte = Ascii.space ∨ byte = Ascii.backslash then [Ascii.backslash, byte]
    else if Quoting.isShown byte then [byte]
    else Quoting.octalEscape byte

def shownName (manner : ListManner) (name : Bytes) : Bytes :=
  match manner.quoting with
  | "c" => doubleQuoted name
  | "escape" => escapedName name
  | "shell" | "shell-escape" =>
      if Quoting.isPlain (name.filter (· ≠ Ascii.colon)) then name else Quoting.always name
  | "shell-always" | "shell-escape-always" => Quoting.always name
  | "hide" => name.map fun byte => if Quoting.isShown byte then byte else Ascii.question
  | _ => name

def kindMark (manner : ListManner) (node : Node) : Bytes :=
  match manner.classify with
  | none => []
  | some how =>
      if isFolderNode node then [Ascii.slash]
      else if how = 'p' then []
      else if isLinkNode node then [Ascii.atSign]
      else if FileTest.isKind 112 node then [Ascii.bar]
      else if how = 'F' ∧ FileTest.isKind 102 node ∧ node.mode &&& 73 ≠ 0 then [Ascii.asterisk]
      else []

def roomText (manner : ListManner) (node : Node) : Bytes :=
  if manner.human then humanSize 1024 (roomOf node * 1024) else .ofNat (roomOf node)

def sizeText (manner : ListManner) (node : Node) : Bytes :=
  match node.content with
  | .device _ =>
      let (major, minor) := deviceNumbers node
      .ofNat major ++ ascii ", " ++ rightAlignedNumber 3 minor
  | _ =>
      let size := FileTest.size node
      if manner.human then humanSize 1024 size else .ofNat size
where
  rightAlignedNumber (width number : Nat) : Bytes :=
    let digits := Bytes.ofNat number
    List.replicate (width - digits.length) Ascii.space ++ digits

def halfYear : Nat := 15778476 * 1000000000

def timeText (manner : ListManner) (now : Nat) (node : Node) : Bytes :=
  let time := timeOf manner node
  let moment := Moment.ofNanoseconds time
  let format := match manner.style with
    | some format => format
    | none =>
        if time ≤ now ∧ now < time + halfYear then ascii "%b %e %H:%M" else ascii "%b %e  %Y"
  Calendar.format moment format

def leftAligned (width : Nat) (text : Bytes) : Bytes :=
  text ++ List.replicate (width - text.length) Ascii.space

def alignRight (width : Nat) (text : Bytes) : Bytes :=
  List.replicate (width - text.length) Ascii.space ++ text

def widest (texts : List Bytes) : Nat :=
  (texts.map (·.length)).foldl max 0

def frontText (manner : ListManner) (inodeWidth roomWidth : Nat) (entry : Listed) : Bytes :=
  (if manner.inode then alignRight inodeWidth (.ofNat (entry.id.getD 0 + 1000)) ++ [Ascii.space]
    else []) ++
  (if manner.room then alignRight roomWidth (roomText manner entry.node) ++ [Ascii.space] else [])

def linkText (manner : ListManner) (entry : Listed) : Run Bytes := do
  match entry.node.content with
  | .link target =>
      let mark ← match manner.classify, ← node? entry.path with
        | some _, some (_, node) => pure (kindMark manner node)
        | _, _ => pure []
      return ascii " -> " ++ shownName manner target ++ mark
  | _ => return []

def longLines (manner : ListManner) (entries : List Listed) : Run (List Bytes) := do
  let now ← currentTime
  let inodeWidth := widest (entries.map fun entry => .ofNat (entry.id.getD 0 + 1000))
  let roomWidth := widest (entries.map fun entry => roomText manner entry.node)
  let linksWidth := widest (entries.map fun entry => .ofNat entry.links)
  let user := fun (number : Nat) =>
    if manner.numeric then Bytes.ofNat number else Account.userName number
  let group := fun (number : Nat) =>
    if manner.numeric then Bytes.ofNat number else Account.groupName number
  let known := entries.filter (!·.unknown)
  let ownerWidth := widest (known.map fun entry => user entry.node.owner)
  let groupWidth := widest (known.map fun entry => group entry.node.group)
  let sizeWidth := widest (known.map fun entry => sizeText manner entry.node)
  let timeWidth := widest (entries.map fun entry => timeText manner now entry.node)
  let blank := [Ascii.space]
  let unknown := fun (width : Nat) => alignRight width [Ascii.question] ++ blank
  entries.mapM fun entry => do
    if entry.unknown then
      return Ascii.minus :: List.replicate 9 Ascii.question ++ blank ++ unknown linksWidth ++
        (if manner.owner then leftAligned ownerWidth [Ascii.question] ++ blank else []) ++
        (if manner.group then leftAligned groupWidth [Ascii.question] ++ blank else []) ++
        unknown sizeWidth ++ unknown timeWidth ++ shownName manner entry.name
    let goal ← linkText manner entry
    let mark := if isLinkNode entry.node then [] else kindMark manner entry.node
    return frontText manner inodeWidth roomWidth entry ++ permissionText entry.node ++ blank ++
      alignRight linksWidth (.ofNat entry.links) ++ blank ++
      (if manner.owner then leftAligned ownerWidth (user entry.node.owner) ++ blank else []) ++
      (if manner.group then leftAligned groupWidth (group entry.node.group) ++ blank else []) ++
      alignRight sizeWidth (sizeText manner entry.node) ++ blank ++
      alignRight timeWidth (timeText manner now entry.node) ++ blank ++
      shownName manner entry.name ++ goal ++ mark

/-! Columns. -/

/-- Blanks from one place of a line to another, by tabs where they reach. -/
def indent : Nat → Nat → Nat → Bytes
  | 0, _, _ => []
  | bound + 1, start, stop =>
      if stop ≤ start then []
      else if (start + 1) / 8 < stop / 8 then
        Ascii.tab :: indent bound (start + 8 - start % 8) stop
      else Ascii.space :: indent bound (start + 1) stop

def columnOf (across : Bool) (total columns index : Nat) : Nat :=
  if across then index % columns else index / ((total + columns - 1) / columns)

def columnWidths? (across : Bool) (lengths : List Nat) (width columns : Nat) : Option (List Nat) :=
  let total := lengths.length
  let indexed := (List.range total).zip lengths
  let widths := (List.range columns).map fun column =>
    let inside := indexed.filter fun (index, _) => columnOf across total columns index == column
    let gap := if column + 1 = columns then 0 else 2
    (inside.map fun (_, length) => length + gap).foldl max 3
  if widths.foldl (· + ·) 0 < width then some widths else none

def bestWidths (across : Bool) (lengths : List Nat) (width : Nat) : Nat → List Nat
  | 0 => [width]
  | 1 => [width]
  | columns + 2 =>
      match columnWidths? across lengths width (columns + 2) with
      | some widths => widths
      | none => bestWidths across lengths width (columns + 1)

def columnLine (widths : List Nat) (place : Nat) (items : List Bytes) (start : Nat) : Bytes :=
  match widths, items with
  | width :: widths, item :: items =>
      let next := start + width
      let gap := if items = [] then [] else indent 1000 (place + item.length) next
      item ++ gap ++ columnLine widths next items next
  | _, _ => []

def columnLines (across : Bool) (width : Nat) (items : List Bytes) : List Bytes :=
  let total := items.length
  if total = 0 then []
  else
    let limit := min total (max 1 ((width + 2) / 3))
    let widths := bestWidths across (items.map (·.length)) width limit
    let columns := widths.length
    let rows := (total + columns - 1) / columns
    (List.range rows).map fun row =>
      let indices := if across then
          (List.range columns).map fun column => row * columns + column
        else (List.range columns).map fun column => column * rows + row
      columnLine widths 0 (indices.filterMap fun index => items[index]?) 0

def commaText (width : Nat) : Nat → List Bytes → Bytes
  | _, [] => []
  | place, item :: rest =>
      let length := item.length + (if rest = [] then 0 else 2)
      if place = 0 then item ++ more item.length rest
      else if place + 2 + length < width + (if rest = [] then 1 else 1) then
        ascii ", " ++ item ++ more (place + 2 + item.length) rest
      else ascii ",\n" ++ item ++ more item.length rest
where
  more (place : Nat) (rest : List Bytes) : Bytes :=
    commaText width place rest

def printListed (manner : ListManner) (entries : List Listed) : Run Unit := do
  if manner.long then
    for line in ← longLines manner entries do Run.sayLine line
  else
    let inodeWidth := widest (entries.map fun entry => .ofNat (entry.id.getD 0 + 1000))
    let roomWidth := widest (entries.map fun entry => roomText manner entry.node)
    let items := entries.map fun entry =>
      frontText manner inodeWidth roomWidth entry ++ shownName manner entry.name ++
        kindMark manner entry.node
    if manner.commas then
      if items ≠ [] then Run.sayLine (commaText manner.width 0 items)
    else if manner.columns ∨ manner.across then
      for line in columnLines manner.across manner.width items do Run.sayLine line
    else
      for item in items do Run.sayLine item

def isHiddenBy (patterns : List Bytes) (name : Bytes) : Bool :=
  patterns.any fun pattern => (Shell.Pattern.ofText pattern).matchesWhole name

def listedIn (manner : ListManner) (folder : Bytes) (names : List Bytes) : Run (List Listed) := do
  let names := names.filter fun name =>
    manner.all || manner.almostAll || name.head? != some Ascii.dot
  let names := names.filter fun name => !isHiddenBy manner.hidden name
  let names := if manner.all then ascii "." :: ascii ".." :: names else names
  let found ← names.mapM fun name => do
    let path := inFolder folder name
    match ← examineListed manner name path false with
    | .ok entry => pure entry
    | .error fault =>
        if manner.long ∨ manner.room ∨ manner.classify.isSome ∨ manner.inode then
          Run.worry (blame "cannot access" path fault)
        pure { name, path, id := none, node := default, links := 1, unknown := true }
  return sortListed manner found

/-- List a folder, perhaps with its name, and what is below it.  `first` says that no folder was
listed before, and so does the answer.  `top` says that the folder was named by the caller.  The
number bounds the depth. -/
def listFolder (manner : ListManner) (headed : Bool) : Nat → Bool → Bool → Bytes → Run Bool
  | 0, _, first, _ => return first
  | bound + 1, top, first, folder => do
      match ← entryNames folder with
      | .error fault =>
          Run.worry (blame "cannot open directory" folder fault) (if top then 2 else 1)
          return first
      | .ok names =>
      if !first then Run.say [Ascii.newline]
      if headed then Run.sayLine (shownName manner folder ++ [Ascii.colon])
      let entries ← listedIn manner folder names
      if manner.long ∨ manner.room then
        let total := (entries.map fun entry => roomOf entry.node).foldl (· + ·) 0
        let shown := if manner.human then humanSize 1024 (total * 1024) else .ofNat total
        Run.sayLine (ascii "total " ++ shown)
      printListed manner entries
      if manner.recursive then
        for entry in entries do
          if isFolderNode entry.node ∧ !isDotName entry.name then
            let _ ← listFolder manner headed bound false false (inFolder folder entry.name)
      return false

def listChoices : List Choice :=
  [ flag ["a", "all"], flag ["A", "almost-all"], flag ["b", "escape"], flag ["B", "ignore-backups"],
    flag ["c"], flag ["C"], perhapsValued ["color"], flag ["d", "directory"], flag ["f"],
    flag ["F"], perhapsValued ["classify"], flag ["file-type"], valued ["format"], flag ["full-time"],
    flag ["g"], flag ["G", "no-group"], flag ["group-directories-first"],
    flag ["h", "human-readable"], flag ["si"], flag ["H", "dereference-command-line"],
    valued ["hide"], valued ["indicator-style"], flag ["i", "inode"], valued ["I", "ignore"],
    flag ["k", "kibibytes"], flag ["l"], flag ["L", "dereference"], flag ["m"],
    flag ["n", "numeric-uid-gid"], flag ["N", "literal"], flag ["o"], flag ["p"],
    flag ["q", "hide-control-chars"], flag ["Q", "quote-name"], valued ["quoting-style"],
    flag ["r", "reverse"], flag ["R", "recursive"], flag ["s", "size"], flag ["S"],
    valued ["sort"], valued ["time"], valued ["time-style"], flag ["t"], valued ["T", "tabsize"],
    flag ["u"], flag ["U"], flag ["v"], valued ["w", "width"], flag ["x"], flag ["X"],
    flag ["Z", "context"], flag ["zero"], flag ["1"], flag ["show-control-chars"] ]

def listManner (parsed : Parsed) (columns : Option Bytes) : ListManner :=
  let format := match parsed.last? ["l", "1", "C", "x", "m", "g", "o", "n", "full-time"] with
    | some "1" =>
        if parsed.has "l" || parsed.has "g" || parsed.has "o" || parsed.has "n" then "l" else "1"
    | some name => name
    | none => "1"
  let long := ["l", "g", "o", "n", "full-time"].contains format
  let named := fun (words : List (String × Char)) (text : Bytes) =>
    ((words.find? fun entry => ascii entry.1 == text).map (·.2)).getD ' '
  let sort := match parsed.last? ["S", "t", "X", "v", "U", "f", "sort"] with
    | some "f" => 'U'
    | some "sort" => named [("size", 'S'), ("time", 't'), ("extension", 'X'), ("version", 'v'),
        ("none", 'U')] ((parsed.value? "sort").getD [])
    | some name => name.front
    | none => if (parsed.has "c" || parsed.has "u") && !long then 't' else ' '
  let styled := match parsed.value? "time-style" with
    | some (Ascii.plus :: format) => some format
    | some word =>
        if word = ascii "full-iso" then some (ascii "%Y-%m-%d %H:%M:%S.%N %z")
        else if word = ascii "long-iso" then some (ascii "%Y-%m-%d %H:%M")
        else none
    | none => if parsed.has "full-time" then some (ascii "%Y-%m-%d %H:%M:%S.%N %z") else none
  let quoting := match parsed.last? ["Q", "b", "N", "q", "quoting-style"] with
    | some "Q" => "c"
    | some "b" => "escape"
    | some "q" => "hide"
    | some "quoting-style" =>
        String.ofList (((parsed.value? "quoting-style").getD []).map fun byte =>
          Char.ofNat byte.toNat)
    | _ => "literal"
  { long, oneEach := format == "1", columns := format == "C", across := format == "x"
    commas := format == "m", all := parsed.has "a" || parsed.has "f", almostAll := parsed.has "A"
    reverse := parsed.has "r", sort, recursive := parsed.has "R"
    classify := match parsed.last? ["F", "classify", "file-type", "p"] with
      | some "F" | some "classify" => some 'F'
      | some "file-type" => some 't'
      | some _ => some 'p'
      | none => none
    inode := parsed.has "i", room := parsed.has "s", human := parsed.has "h" || parsed.has "si"
    numeric := parsed.has "n", owner := !parsed.has "g"
    group := !(parsed.has "o" || parsed.has "G"), quoting
    width := match parsed.value? "w" with
      | some text => match (Bytes.toNat? text).getD 80 with
          | 0 => 100000
          | width => width
      | none => (columns.bind Bytes.toNat?).getD 80
    style := styled, follow := parsed.has "L"
    hidden := parsed.values "I" ++
      (if parsed.has "a" || parsed.has "A" then [] else parsed.values "hide") ++
      (if parsed.has "B" then [ascii "*~"] else [])
    foldersFirst := parsed.has "group-directories-first", accessTime := parsed.has "u" }

def ls : Main := fun arguments => do
  let parsed ← Run.options listChoices arguments false 2
  let manner := listManner parsed (← Run.environment? "COLUMNS")
  let operands := if parsed.operands = [] then [ascii "."] else parsed.operands
  let entersLinks := !(manner.long || manner.classify == some 'F' || parsed.has "d") ||
    parsed.has "H"
  let mut files : List Listed := []
  let mut folders : List Listed := []
  for path in operands do
    let follow ← if entersLinks then isFolderPath path else pure false
    match ← examineListed manner path path follow with
    | .error fault => Run.worry (blame "cannot access" path fault) 2
    | .ok entry =>
        if isFolderNode entry.node ∧ !parsed.has "d" then folders := entry :: folders
        else files := entry :: files
  files := sortListed manner files.reverse
  folders := sortListed manner folders.reverse
  printListed manner files
  let headed := manner.recursive || 1 < operands.length
  if !files.isEmpty && !folders.isEmpty then Run.say [Ascii.newline]
  let mut first := true
  for folder in folders do
    first ← listFolder manner headed Files.maximalPath true first folder.path
  Run.status

/-! Facts about files, by a format. -/

def statText (path : Bytes) (id : Option NodeId) (links : Nat) (node : Node) (letter : Char) :
    Option Bytes :=
  let moment := fun (time : Nat) =>
    Calendar.format (Moment.ofNanoseconds time) (ascii "%Y-%m-%d %H:%M:%S.%N %z")
  let hex := fun (number : Nat) => (Nat.toDigits 16 number).map Char.toUInt8
  match letter with
  | 'a' => some (Mode.octalText 1 node.mode)
  | 'A' => some (permissionText node)
  | 'b' => some (.ofNat (roomOf node * 2))
  | 'B' => some (ascii "512")
  | 'd' => some (ascii "65024")
  | 'D' => some (ascii "fe00")
  | 'f' => some (hex (kindNumber node + node.mode))
  | 'F' => some (kindName node)
  | 'g' => some (.ofNat node.group)
  | 'G' => some (Account.groupName node.group)
  | 'h' => some (.ofNat links)
  | 'i' => some (.ofNat (id.getD 0 + 1000))
  | 'm' => some (ascii "/")
  | 'n' => some path
  | 'N' =>
      match node.content with
      | .link target => some (arrow path target)
      | _ => some (Quoting.always path)
  | 'o' => some (ascii "4096")
  | 's' => some (.ofNat (FileTest.size node))
  | 't' => some (hex (deviceNumbers node).1)
  | 'T' => some (hex (deviceNumbers node).2)
  | 'u' => some (.ofNat node.owner)
  | 'U' => some (Account.userName node.owner)
  | 'w' | 'z' | 'y' => some (moment node.modified)
  | 'W' | 'Z' | 'Y' => some (.ofNat (node.modified / Moment.nanosPerSecond))
  | 'x' => some (moment node.accessed)
  | 'X' => some (.ofNat (node.accessed / Moment.nanosPerSecond))
  | 'C' => some (ascii "?")
  | _ => none
where
  arrow (path target : Bytes) : Bytes :=
    Quoting.always path ++ ascii " -> " ++ Quoting.always target

/-- Expand a format; `escapes` says that backslashes have a meaning.  The number bounds its
length. -/
def statFormat (value : Char → Option Bytes) (escapes : Bool) : Nat → Bytes → Bytes
  | 0, _ => []
  | _, [] => []
  | bound + 1, byte :: rest =>
      if byte = Ascii.percent then
        let (directive, after) := Directive.readSizes rest
        match after with
        | [] => [byte]
        | Ascii.percent :: after => Ascii.percent :: statFormat value escapes bound after
        | letter :: after =>
            let shown := match value (Char.ofNat letter.toNat) with
              | some text =>
                  let isNumber := text.all isDigit
                  if isNumber then directive.pad 0 (directive.zero && !directive.left) text
                  else directive.text text
              | none => ascii "?"
            shown ++ statFormat value escapes bound after
      else if escapes ∧ byte = Ascii.backslash then
        match Escape.read { hexadecimal := true } rest with
        | .bytes text rest => text ++ statFormat value escapes bound rest
        | _ => byte :: statFormat value escapes bound rest
      else byte :: statFormat value escapes bound rest

/-- The usual format; `target` is what a link says. -/
def statDefault (target : Option Bytes) : Bytes :=
  ascii "  File: %n" ++
  (match target with
    | some target =>
        ascii " -> " ++ target.flatMap fun byte =>
          if byte = Ascii.percent then [byte, byte] else [byte]
    | none => []) ++
  ascii ("\n  Size: %-10s\tBlocks: %-10b IO Block: %-6o %F\n" ++
  "Device: 254,0\tInode: %-11i Links: %h\n" ++
  "Access: (%04a/%10.10A)  Uid: (%5u/%8U)   Gid: (%5g/%8G)\n" ++
  "Access: %x\nModify: %y\nChange: %z\n Birth: %w\n")

def stat : Main := fun arguments => do
  let parsed ← Run.options
    [flag ["L", "dereference"], flag ["f", "file-system"], valued ["c", "format"],
      valued ["printf"], flag ["t", "terse"], valued ["cached"]] arguments
  if parsed.operands = [] then Run.failWithHint (ascii "missing operand")
  let (format, escapes, ending) := match parsed.last? ["c", "printf"] with
    | some "c" => ((parsed.value? "c").getD [], false, [Ascii.newline])
    | some _ => ((parsed.value? "printf").getD [], true, [])
    | none =>
        if parsed.has "t" then
          (ascii "%n %s %b %f %u %g %D %i %h %t %T %X %Y %Z %W %o", false, [Ascii.newline])
        else (statDefault none, false, [])
  for path in parsed.operands do
    let found ← if isStandard path then
        match ← Act.description? 0 with
        | some { target := .node id, .. } => pure (.ok (some id, (← Act.files).node id))
        | _ => pure (.ok (none, { content := .fifo 0, mode := 384 }))
      else Act.examine path (parsed.has "L")
    match found with
    | .error fault => Run.worry (blame "cannot statx" path fault)
    | .ok (id, node) =>
        let files ← Act.files
        let links := match id with
          | some id => linkCount files id
          | none => 1
        let isUsual := !parsed.has "c" && !parsed.has "printf" && !parsed.has "t"
        let format := match node.content with
          | .link target => if isUsual then statDefault (some target) else format
          | _ => format
        Run.say (statFormat (statText path id links node) escapes (format.length + 1) format ++
          ending)
  Run.status

end Rpn.Tool
