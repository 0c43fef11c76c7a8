import Rpn.Text.Regex.Reader
import Rpn.Tool.Attribute
import Rpn.Tool.Plain

/-! Tools that show parts of texts, count them or number them.  Only serves the test environment. -/

namespace Rpn.Tool

open Host Text

/-! The first and the last part of a text. -/

structure Portion where
  bytes : Bool := false
  count : Nat := 10
  fromOther : Bool := false

def readCount? (text : Bytes) : Option Nat := do
  let digits := text.takeWhile isDigit
  if digits = [] then none
  let suffix := text.drop digits.length
  let factor ← if suffix = ascii "b" then some 512 else sizeFactor? suffix
  return Bytes.valueOf digits * factor

def oldCount? (argument : Bytes) (plus : Bool) : Option Portion := do
  match argument with
  | sign :: rest =>
      if sign ≠ Ascii.minus ∧ ¬ (plus ∧ sign = Ascii.plus) then none
      let digits := rest.takeWhile isDigit
      if digits = [] then none
      let letters := rest.drop digits.length
      let count := Bytes.valueOf digits
      if letters = [] ∨ letters = ascii "l" then
        return { count, fromOther := sign == Ascii.plus }
      else if letters = ascii "c" then
        return { bytes := true, count, fromOther := sign == Ascii.plus }
      else none
  | [] => none

def takeOldCount (plus : Bool) (arguments : List Bytes) : Option Portion × List Bytes :=
  match arguments.head?.bind (oldCount? · plus) with
  | some portion => (some portion, arguments.tail)
  | none => (none, arguments)

def portionChoices : List Choice :=
  [ valued ["c", "bytes"], valued ["n", "lines"], flag ["q", "quiet", "silent"],
    flag ["v", "verbose"], flag ["z", "zero-terminated"], flag ["f", "follow"], flag ["F"],
    flag ["r"], valued ["s", "sleep-interval"], valued ["pid"] ]

/-- The portion that options ask for.  `mark` is the sign that turns the count around. -/
def portionOf (parsed : Parsed) (old : Option Portion) (mark : UInt8) : Run Portion := do
  match parsed.last? ["c", "n"] with
  | none => return old.getD {}
  | some name =>
      let text := (parsed.value? name).getD []
      let (turned, digits) := match text with
        | first :: rest =>
            if first = mark then (true, rest)
            else if first = Ascii.plus ∨ first = Ascii.minus then (false, rest)
            else (false, text)
        | [] => (false, [])
      match readCount? digits with
      | some count => return { bytes := name == "c", count, fromOther := turned }
      | none =>
          let what := if name = "c" then "bytes" else "lines"
          Run.fail (ascii "invalid number of " ++ ascii what ++ ascii ": " ++ Quoting.plain digits)

def units (bytes : Bool) (ending : UInt8) (text : Bytes) : List Bytes :=
  if bytes then text.map ([·])
  else
    let parts := text.splitOn ending
    let last := parts.getLastD []
    parts.dropLast.map (· ++ [ending]) ++ (if last = [] then [] else [last])

def frontLength (bytes : Bool) (ending : UInt8) : Nat → Nat → Bytes → Option Nat
  | 0, taken, _ => some taken
  | _ + 1, _, [] => none
  | count + 1, taken, byte :: rest =>
      if bytes ∨ byte = ending then frontLength bytes ending count (taken + 1) rest
      else frontLength bytes ending (count + 1) (taken + 1) rest

/-- Print the first units of a descriptor, and read no more blocks than needed.  What was read too
far is given back where that can be done. -/
def headFrom (number : Nat) (bytes : Bool) (ending : UInt8) : Nat → Nat → Run (Option Fault)
  | 0, _ => return none
  | _, 0 => return none
  | bound + 1, count + 1 => do
      match ← Act.read number 1024 with
      | .error fault => return some fault
      | .ok [] => return none
      | .ok block =>
          match frontLength bytes ending (count + 1) 0 block with
          | some length =>
              Run.say (block.take length)
              match ← Act.description? number with
              | some { target := .node _, offset, .. } =>
                  Act.seek number (offset - (block.length - length))
              | _ => pure ()
              return none
          | none =>
              Run.say block
              let used := if bytes then block.length else block.count ending
              headFrom number bytes ending bound (count + 1 - used)

def withHeadings (parsed : Parsed) (present : Nat → Run (Option Fault)) : Run Nat := do
  let names := if parsed.operands = [] then [[Ascii.minus]] else parsed.operands
  let headed := match parsed.last? ["q", "v"] with
    | some "q" => false
    | some _ => true
    | none => 1 < names.length
  let mut first := true
  for name in names do
    match ← openInput name with
    | .error fault =>
        Run.worry (ascii "cannot open " ++ Quoting.always name ++ ascii " for reading: " ++
          fault.message)
    | .ok number =>
        if headed then
          let shown := if isStandard name then ascii "standard input" else name
          Run.say ((if first then [] else [Ascii.newline]) ++ ascii "==> " ++ shown ++
            ascii " <==\n")
        first := false
        match ← present number with
        | some fault =>
            let shown := if isStandard name then ascii "standard input" else name
            Run.worry (blameReading shown fault)
        | none => pure ()
        if number ≠ 0 then Act.close number
  Run.status
where
  blameReading (name : Bytes) (fault : Fault) : Bytes :=
    ascii "error reading " ++ Quoting.always name ++ ascii ": " ++ fault.message

def lineEnding (parsed : Parsed) : UInt8 :=
  if parsed.has "z" then 0 else Ascii.newline

def head : Main := fun arguments => do
  let (old, arguments) := takeOldCount false arguments
  let parsed ← Run.options portionChoices arguments
  let portion ← portionOf parsed old Ascii.minus
  let ending := lineEnding parsed
  withHeadings parsed fun number => do
    if portion.fromOther then
      match ← Act.readAll number with
      | .error fault => return some fault
      | .ok text =>
          let found := units portion.bytes ending text
          Run.say (found.take (found.length - portion.count)).flatten
          return none
    else headFrom number portion.bytes ending Act.unbounded portion.count

def tail : Main := fun arguments => do
  let (old, arguments) := takeOldCount true arguments
  let parsed ← Run.options portionChoices arguments
  let portion ← portionOf parsed old Ascii.plus
  let ending := lineEnding parsed
  withHeadings parsed fun number => do
    match ← Act.readAll number with
    | .error fault => return some fault
    | .ok text =>
        let found := units portion.bytes ending text
        let skipped := if portion.fromOther then portion.count - 1
          else found.length - portion.count
        Run.say (found.drop skipped).flatten
        return none

/-! Lines and bytes in reverse. -/

def partsEnding (separator : Bytes) : Nat → Bytes → Bytes → List Bytes
  | 0, _, _ => []
  | _, part, [] => if part = [] then [] else [part.reverse]
  | bound + 1, part, byte :: rest =>
      if separator.isPrefixOf (byte :: rest) then
        (part.reverse ++ separator) ::
          partsEnding separator bound [] ((byte :: rest).drop separator.length)
      else partsEnding separator bound (byte :: part) rest

def partsBeginning (separator : Bytes) : Nat → Bytes → Bytes → List Bytes
  | 0, _, _ => []
  | _, part, [] => if part = [] then [] else [part.reverse]
  | bound + 1, part, byte :: rest =>
      if separator.isPrefixOf (byte :: rest) then
        (if part = [] then [] else [part.reverse]) ++
          partsBeginning separator bound separator.reverse ((byte :: rest).drop separator.length)
      else partsBeginning separator bound (byte :: part) rest

/-- A separator as a basic pattern, in which a plus and a question mark count repetitions without a
backslash before them.  `inSet` says whether a set of bytes is open.  The number bounds the length. -/
def separatorPattern : Nat → Bool → Bytes → Bytes
  | 0, _, _ => []
  | _, _, [] => []
  | bound + 1, true, byte :: rest =>
      byte :: separatorPattern bound (byte != Ascii.closeBracket) rest
  | bound + 1, false, byte :: rest =>
      let isCount := fun (byte : UInt8) => byte == Ascii.plus || byte == Ascii.question
      match byte, rest with
      | Ascii.backslash, next :: rest =>
          (if isCount next then [next] else [byte, next]) ++ separatorPattern bound false rest
      | Ascii.openBracket, _ =>
          let opened := rest.take (if rest.head? = some Ascii.caret then 2 else 1)
          byte :: opened ++ separatorPattern bound true (rest.drop opened.length)
      | byte, rest =>
          (if isCount byte then [Ascii.backslash, byte] else [byte]) ++
            separatorPattern bound false rest

/-- The last place before a bound where a separator matches the text up to that bound, and the
length of the match. -/
def lastMatch? (matcher : Regex.Matcher) (text : ByteArray) : Nat → Option (Nat × Nat)
  | 0 => none
  | place + 1 =>
      match Regex.matchAt matcher text place with
      | some found => some (place, found.stop - place)
      | none => lastMatch? matcher text place

/-- The parts of a text from the last one on, divided by matches of a pattern, which are found from
the end on.  `edge` is where the parts that were found begin, and `limit` where the last match
begins.  The number bounds how many there are. -/
def partsByPattern (matcher : Regex.Matcher) (before : Bool) (text : ByteArray) :
    Nat → Bool → Nat → Nat → List Bytes
  | 0, _, _, _ => []
  | bound + 1, first, edge, limit =>
      let part := fun (start stop : Nat) => (text.extract start stop).toList
      match lastMatch? matcher (text.extract 0 limit) limit with
      | none => [part 0 edge]
      | some (place, length) =>
          if before then part place edge :: partsByPattern matcher before text bound false place place
          else
            let stop := place + length
            (if first ∧ stop = edge then [] else [part stop edge]) ++
              partsByPattern matcher before text bound false stop place

def tac : Main := fun arguments => do
  let parsed ← Run.options
    [flag ["b", "before"], flag ["r", "regex"], valued ["s", "separator"]] arguments
  let separator := match (parsed.value? "s").getD [Ascii.newline] with
    | [] => [0]
    | separator => separator
  let names := if parsed.operands = [] then [[Ascii.minus]] else parsed.operands
  let matcher? ← if !parsed.has "r" then pure none
    else if parsed.value? "s" = some [] then Run.fail (ascii "separator cannot be empty")
    else
      let pattern := separatorPattern (separator.length + 1) false separator
      match Regex.read {} pattern with
      | .ok (regex, _) => pure (some regex.matcher)
      | .error fault => Run.fail fault.message
  for name in names do
    match ← readInput name with
    | .error .isFolder =>
        Run.worry (Quoting.whenNeeded name ++ ascii ": read error: " ++ Fault.isFolder.message)
    | .error fault =>
        Run.worry (ascii "failed to open " ++ Quoting.always name ++ ascii " for reading: " ++
          fault.message)
    | .ok text =>
        match matcher? with
        | some matcher =>
            Run.say (partsByPattern matcher (parsed.has "b") ⟨text.toArray⟩ (text.length + 1) true
              text.length text.length).flatten
        | none =>
            let parts := if parsed.has "b" then partsBeginning separator (text.length + 1) [] text
              else partsEnding separator (text.length + 1) [] text
            Run.say parts.reverse.flatten
  Run.status

def rev : Main := fun arguments => do
  let parsed ← Run.options [flag ["0", "zero"]] arguments
  let names := if parsed.operands = [] then [[Ascii.minus]] else parsed.operands
  for name in names do
    match ← readInput name with
    | .error fault => Run.worry (ascii "cannot open " ++ name ++ ascii ": " ++ fault.message)
    | .ok text =>
        let ending := if parsed.has "0" then 0 else Ascii.newline
        for line in units false ending text do
          if line.getLast? = some ending then Run.say (line.dropLast.reverse ++ [ending])
          else Run.say line.reverse
  Run.status

/-! Counting. -/

structure Counts where
  lines : Nat := 0
  words : Nat := 0
  chars : Nat := 0
  bytes : Nat := 0
  longest : Nat := 0

/-- Count along a text.  `inWord` says that a word has begun, and `place` is the place in the
line. -/
def countFrom : Counts → Bool → Nat → Bytes → Counts
  | counts, inWord, place, [] =>
      { counts with
        words := if inWord then counts.words + 1 else counts.words
        longest := max counts.longest place }
  | counts, inWord, place, byte :: rest =>
      let blank := isSpace byte
      let counts := { counts with
        bytes := counts.bytes + 1
        words := if blank && inWord then counts.words + 1 else counts.words }
      if byte = Ascii.newline then
        countFrom { counts with lines := counts.lines + 1, longest := max counts.longest place }
          false 0 rest
      else if byte = Ascii.carriageReturn ∨ byte = 12 then
        countFrom { counts with longest := max counts.longest place } false 0 rest
      else
        let place := if byte = Ascii.tab then place + 8 - place % 8
          else if 32 ≤ byte ∧ byte ≤ 126 then place + 1 else place
        countFrom counts (!blank) place rest

def Counts.add (left right : Counts) : Counts :=
  { lines := left.lines + right.lines, words := left.words + right.words
    chars := left.chars + right.chars, bytes := left.bytes + right.bytes
    longest := max left.longest right.longest }

def regularSize? (name : Bytes) : Run (Option (Option Nat)) := do
  if isStandard name then
    match ← Act.description? 0 with
    | some { target := .node id, .. } =>
        match (← Act.files).content id with
        | .file data => return some (some data.size)
        | _ => return some none
    | _ => return some none
  else
    match ← node? name with
    | some (_, { content := .file data, .. }) => return some (some data.size)
    | some _ => return some none
    | none => return none

def wc : Main := fun arguments => do
  let parsed ← Run.options
    [flag ["c", "bytes"], flag ["m", "chars"], flag ["l", "lines"], flag ["L", "max-line-length"],
      flag ["w", "words"], valued ["files0-from"], valued ["total"], flag ["debug"]] arguments
  let wanted := fun (letter : String) =>
    parsed.has letter ||
      (["l", "w", "c"].contains letter && !(["c", "m", "l", "L", "w"].any parsed.has))
  let given ← match parsed.value? "files0-from" with
    | none => pure parsed.operands
    | some list =>
        match ← readInput list with
        | .ok text => pure ((text.splitOn 0).filter (· ≠ []))
        | .error fault =>
            Run.fail (ascii "cannot open " ++ Quoting.always list ++ ascii " for reading: " ++
              fault.message)
  let names := if given = [] then [[Ascii.minus]] else given
  let columns := (["l", "w", "m", "c", "L"].filter wanted).length
  let sizes ← names.mapM regularSize?
  let known := sizes.filterMap id
  let total := (known.map (·.getD 0)).foldl (· + ·) 0
  let least := if known.any (·.isNone) then 7 else 1
  let only := (parsed.value? "total") == some (ascii "only")
  let width := if names.length = 1 ∧ columns = 1 then 1
    else if only then 1
    else max least (Bytes.ofNat total).length
  let line := fun (counts : Counts) (label : Bytes) =>
    let numbers := (["l", "w", "m", "c", "L"].filter wanted).map fun letter =>
      match letter with
      | "l" => counts.lines
      | "w" => counts.words
      | "L" => counts.longest
      | _ => counts.bytes
    let shown := numbers.map fun number => rightAligned width (.ofNat number)
    [Ascii.space].intercalate shown ++ (if label = [] then [] else Ascii.space :: label)
  let mut sum : Counts := {}
  for name in names do
    match ← openInput name with
    | .error fault => Run.worry (Quoting.whenNeeded name ++ ascii ": " ++ fault.message)
    | .ok number =>
        let label := if given = [] then [] else name
        match ← Act.readAll number with
        | .error fault =>
            Run.worry (Quoting.whenNeeded name ++ ascii ": " ++ fault.message)
            if !only then Run.sayLine (line {} label)
        | .ok text =>
            let counts := countFrom {} false 0 text
            sum := sum.add counts
            if !only then Run.sayLine (line counts label)
        if number ≠ 0 then Act.close number
  let shows := match parsed.value? "total" with
    | some word => word = ascii "always" ∨ only
    | none => 1 < names.length
  let shows := shows || ((parsed.value? "total") == some (ascii "auto") && 1 < names.length)
  if shows then Run.sayLine (line sum (if only then [] else ascii "total"))
  Run.status

/-! Numbering lines. -/

inductive NumberStyle where
  | all
  | filled
  | none
  | pattern (matcher : Regex.Matcher)

structure NumberManner where
  header : NumberStyle
  body : NumberStyle
  footer : NumberStyle
  start : Int
  step : Int
  width : Nat
  separator : Bytes
  format : Bytes
  join : Nat
  restarts : Bool
  delimiter : Bytes

def numberText (manner : NumberManner) (number : Int) : Bytes :=
  let text := Bytes.ofInt number
  let missing := manner.width - text.length
  if manner.format = ascii "ln" then text ++ List.replicate missing Ascii.space
  else if manner.format = ascii "rz" then
    match text with
    | Ascii.minus :: digits => Ascii.minus :: List.replicate missing Ascii.zero ++ digits
    | digits => List.replicate missing Ascii.zero ++ digits
  else List.replicate missing Ascii.space ++ text

/-- Where the numbering stands: the style of the section, the next number and how many empty lines
came before. -/
structure NumberState where
  style : NumberStyle
  next : Int
  empties : Nat := 0

def numberLine (manner : NumberManner) (state : NumberState) (line : Bytes) :
    Bytes × NumberState :=
  let sections := [(3, manner.header), (2, manner.body), (1, manner.footer)]
  let delimited := sections.find? fun (count, _) =>
    manner.delimiter != [] && line == (List.replicate count manner.delimiter).flatten
  match delimited with
  | some (_, style) =>
      ([], { style, next := if manner.restarts then manner.start else state.next })
  | none =>
      let plain := List.replicate (manner.width + manner.separator.length) Ascii.space ++ line
      let numbered := numberText manner state.next ++ manner.separator ++ line
      let advanced := { state with next := state.next + manner.step, empties := 0 }
      match state.style with
      | .none => (plain, state)
      | .filled => if line = [] then (plain, state) else (numbered, advanced)
      | .pattern matcher => if matcher.isMatch line then (numbered, advanced) else (plain, state)
      | .all =>
          if manner.join ≤ 1 ∨ line ≠ [] then (numbered, advanced)
          else if state.empties + 1 = manner.join then (numbered, advanced)
          else (plain, { state with empties := state.empties + 1 })

def numberStyle (what : String) (text : Bytes) : Run NumberStyle := do
  match text with
  | [97] => return .all
  | [116] => return .filled
  | [110] => return .none
  | 112 :: pattern =>
      match Regex.read {} pattern with
      | .ok (regex, _) => return .pattern regex.matcher
      | .error fault => Run.fail fault.message
  | _ =>
      Run.failWithHint (ascii "invalid " ++ ascii what ++ ascii " numbering style: " ++
        Quoting.plain text)

def numberOption (parsed : Parsed) (letter what : String) (usual : Int) : Run Int := do
  match parsed.value? letter with
  | none => return usual
  | some text =>
      let (negative, digits) := match text with
        | Ascii.minus :: digits => (true, digits)
        | Ascii.plus :: digits => (false, digits)
        | digits => (false, digits)
      match Bytes.toNat? digits with
      | some value => return if negative then -(value : Int) else value
      | none => Run.fail (ascii "invalid " ++ ascii what ++ ascii ": " ++ Quoting.plain text)

def nl : Main := fun arguments => do
  let parsed ← Run.options
    [valued ["b", "body-numbering"], valued ["d", "section-delimiter"],
      valued ["f", "footer-numbering"], valued ["h", "header-numbering"],
      valued ["i", "line-increment"], valued ["l", "join-blank-lines"],
      valued ["n", "number-format"], flag ["p", "no-renumber"], valued ["s", "number-separator"],
      valued ["v", "starting-line-number"], valued ["w", "number-width"]] arguments
  let body ← numberStyle "body" ((parsed.value? "b").getD (ascii "t"))
  let header ← numberStyle "header" ((parsed.value? "h").getD (ascii "n"))
  let footer ← numberStyle "footer" ((parsed.value? "f").getD (ascii "n"))
  let start ← numberOption parsed "v" "starting line number" 1
  let step ← numberOption parsed "i" "line number increment" 1
  let width ← numberOption parsed "w" "line number field width" 6
  let join ← numberOption parsed "l" "line number of blank lines" 1
  if width ≤ 0 then
    Run.fail (ascii "invalid line number field width: " ++
      Quoting.plain ((parsed.value? "w").getD []) ++ ascii ": Numerical result out of range")
  let format := (parsed.value? "n").getD (ascii "rn")
  if !([ascii "rn", ascii "ln", ascii "rz"].contains format) then
    Run.failWithHint (ascii "invalid line number format: " ++ Quoting.plain format)
  let delimiter := match parsed.value? "d" with
    | some [byte] => [byte, Ascii.colon]
    | some bytes => bytes
    | none => ascii "\\:"
  let manner : NumberManner :=
    { header, body, footer, start, step, width := width.toNat
      separator := (parsed.value? "s").getD [Ascii.tab], format, join := join.toNat
      restarts := !parsed.has "p", delimiter }
  let mut state : NumberState := { style := body, next := start }
  let names := if parsed.operands = [] then [[Ascii.minus]] else parsed.operands
  for name in names do
    match ← readInput name with
    | .error fault => Run.worry (Quoting.whenNeeded name ++ ascii ": " ++ fault.message)
    | .ok text =>
        for line in plainLines text do
          let (shown, next) := numberLine manner state line
          Run.sayLine shown
          state := next
  Run.status

/-! Copying the input to several files. -/

def teeBlocks (outputs : List (Bytes × Nat)) : Nat → Run Unit
  | 0 => return ()
  | bound + 1 => do
      match ← Act.read 0 with
      | .error fault => Run.worry (ascii "read error: " ++ fault.message)
      | .ok [] => return ()
      | .ok block =>
          let mut living : List (Bytes × Nat) := []
          for (name, number) in outputs do
            match ← Act.write number block with
            | .ok () => living := (name, number) :: living
            | .error fault => Run.worry (Quoting.whenNeeded name ++ ascii ": " ++ fault.message)
          teeBlocks living.reverse bound

def tee : Main := fun arguments => do
  let parsed ← Run.options
    [flag ["a", "append"], flag ["i", "ignore-interrupts"], flag ["p"],
      perhapsValued ["output-error"]] arguments
  let mut outputs : List (Bytes × Nat) := [(ascii "standard output", 1)]
  for name in parsed.operands do
    let append := parsed.has "a"
    match ← Act.openPath name { write := true, create := true, truncate := !append, append } with
    | .ok number => outputs := (name, number) :: outputs
    | .error fault => Run.worry (Quoting.whenNeeded name ++ ascii ": " ++ fault.message)
  teeBlocks outputs.reverse Act.unbounded
  Run.status

end Rpn.Tool
