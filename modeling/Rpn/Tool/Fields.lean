import Rpn.Tool.Lines

/-! Tools that take lines apart by columns and put them together.  Only serves the test environment.
-/

namespace Rpn.Tool

open Host Text

/-! Cutting out parts of lines. -/

/-- One range of a list: its first place and perhaps its last one. -/
structure Span where
  first : Nat
  last : Option Nat

def Span.contains (span : Span) (place : Nat) : Bool :=
  span.first ≤ place && span.last.all (place ≤ ·)

def readSpan (fields : Bool) (text : Bytes) : Except Bytes Span := do
  let value := fun (digits : Bytes) =>
    match Bytes.toNat? digits with
    | some number => Except.ok number
    | none =>
        .error (ascii "invalid " ++
          ascii (if fields then "field value " else "byte or character position ") ++
          Quoting.plain text)
  let zero := if fields then ascii "fields are numbered from 1"
    else ascii "byte/character positions are numbered from 1"
  match text.splitOn Ascii.minus with
  | [digits] =>
      if digits = [] then .error zero
      else
        let place ← value digits
        if place = 0 then .error zero else return { first := place, last := some place }
  | [[], []] => .error (ascii "invalid range with no endpoint: -")
  | [[], digits] => return { first := 1, last := some (← value digits) }
  | [digits, []] =>
      let place ← value digits
      if place = 0 then .error zero else return { first := place, last := none }
  | [low, high] =>
      let first ← value low
      let last ← value high
      if first = 0 then .error zero
      else if last < first then .error (ascii "invalid decreasing range")
      else return { first, last := some last }
  | _ => .error (ascii "invalid " ++ ascii (if fields then "field range" else "byte or character range"))

def readSpans (fields : Bool) (text : Bytes) : Except Bytes (List Span) :=
  let parts := (text.map fun byte => if isBlank byte then Ascii.comma else byte).splitOn Ascii.comma
  parts.mapM (readSpan fields)

structure CutManner where
  spans : List Span
  complement : Bool
  delimiter : UInt8
  output : Option Bytes
  onlyDelimited : Bool

def CutManner.takes (manner : CutManner) (place : Nat) : Bool :=
  (manner.spans.any (·.contains place)) != manner.complement

/-- The chosen bytes of a line.  A new range begins where the byte before was not chosen or where a
range begins of its own. -/
def cutBytes (manner : CutManner) : Nat → Bool → Bool → Bytes → Bytes
  | _, _, _, [] => []
  | place, before, any, byte :: rest =>
      if manner.takes place then
        let starts := !before || (!manner.complement && beginsAnew place)
        let gap := if starts && any then manner.output.getD [] else []
        gap ++ byte :: cutBytes manner (place + 1) true true rest
      else cutBytes manner (place + 1) false any rest
where
  beginsAnew (place : Nat) : Bool :=
    manner.spans.any (·.first == place) &&
      !(manner.spans.any fun span => span.first < place && span.contains place)

def cutFields (manner : CutManner) (line : Bytes) : Option Bytes :=
  if !line.contains manner.delimiter then if manner.onlyDelimited then none else some line
  else
    let fields := line.splitOn manner.delimiter
    let chosen := ((List.range fields.length).zip fields).filter fun (index, _) =>
      manner.takes (index + 1)
    some ((manner.output.getD [manner.delimiter]).intercalate (chosen.map (·.2)))

def cut : Main := fun arguments => do
  let parsed ← Run.options
    [valued ["b", "bytes"], valued ["c", "characters"], valued ["d", "delimiter"],
      valued ["f", "fields"], flag ["n"], flag ["complement"], flag ["s", "only-delimited"],
      valued ["output-delimiter"], flag ["z", "zero-terminated"]] arguments
  let lists := parsed.given.filter fun given => ["b", "c", "f"].contains given.name
  let (name, text) ← match lists with
    | [] => Run.failWithHint (ascii "you must specify a list of bytes, characters, or fields")
    | [given] => pure (given.name, given.argument.getD [])
    | _ => Run.failWithHint (ascii "only one list may be specified")
  let fields := name == "f"
  let delimiter ← match parsed.value? "d" with
    | none => pure Ascii.tab
    | some [] => pure 0
    | some [byte] => pure byte
    | some _ => Run.failWithHint (ascii "the delimiter must be a single character")
  if !fields ∧ parsed.has "d" then
    Run.failWithHint
      (ascii "an input delimiter may be specified only when operating on fields")
  if !fields ∧ parsed.has "s" then
    Run.failWithHint
      (ascii "suppressing non-delimited lines makes sense\n\tonly when operating on fields")
  let spans ← match readSpans fields text with
    | .ok spans => pure spans
    | .error message => Run.failWithHint message
  let manner : CutManner :=
    { spans, complement := parsed.has "complement", delimiter
      output := parsed.value? "output-delimiter", onlyDelimited := parsed.has "s" }
  let ending := lineEnding parsed
  eachInput parsed.operands fun _ content => do
    if fields ∧ delimiter = ending then
      let body := if content.getLast? = some ending then content.dropLast else content
      match cutFields manner body with
      | some shown => Run.say (shown ++ [ending])
      | none => pure ()
    else
      for line in units false ending content do
        let body := if line.getLast? = some ending then line.dropLast else line
        if fields then
          match cutFields manner body with
          | some shown => Run.say (shown ++ [ending])
          | none => pure ()
        else Run.say (cutBytes manner 1 false false body ++ [ending])
  Run.status

/-! Putting lines side by side. -/

def readDelimiters : Bytes → List Bytes
  | [] => []
  | Ascii.backslash :: letter :: rest =>
      let one := match Char.ofNat letter.toNat with
        | '0' => []
        | 'b' => [8]
        | 'f' => [12]
        | 'n' => [10]
        | 'r' => [13]
        | 't' => [9]
        | 'v' => [11]
        | _ => [letter]
      one :: readDelimiters rest
  | byte :: rest => [byte] :: readDelimiters rest

def joinInTurn (delimiters : List Bytes) : Nat → List Bytes → Bytes
  | _, [] => []
  | _, [item] => item
  | index, item :: rest =>
      item ++ delimiters.getD (index % delimiters.length) [] ++
        joinInTurn delimiters (index + 1) rest

def pasteRows (ending : UInt8) (delimiters : List Bytes) : Nat → List (List Bytes) → List Bytes
  | 0, _ => []
  | bound + 1, columns =>
      if columns.all (·.isEmpty) then []
      else
        let row := joinInTurn delimiters 0 (columns.map fun column => column.headD [])
        (row ++ [ending]) :: pasteRows ending delimiters bound (columns.map List.tail)

def share (count index : Nat) (lines : List Bytes) : List Bytes :=
  ((List.range lines.length).zip lines).filterMap fun (place, line) =>
    if place % count = index then some line else none

def paste : Main := fun arguments => do
  let parsed ← Run.options
    [valued ["d", "delimiters"], flag ["s", "serial"], flag ["z", "zero-terminated"]] arguments
  let delimiters := match readDelimiters ((parsed.value? "d").getD (ascii "\\t")) with
    | [] => [[]]
    | delimiters => delimiters
  let ending := lineEnding parsed
  let linesOf := fun (content : Bytes) =>
    (units false ending content).map fun line =>
      if line.getLast? = some ending then line.dropLast else line
  let names := if parsed.operands = [] then [[Ascii.minus]] else parsed.operands
  if parsed.has "s" then
    for name in names do
      match ← readInput name with
      | .error fault => Run.worry (Quoting.whenNeeded name ++ ascii ": " ++ fault.message)
      | .ok content => Run.say (joinInTurn delimiters 0 (linesOf content) ++ [ending])
    Run.status
  else
    let standard := (names.filter isStandard).length
    let shared ← if standard = 0 then pure [] else
      match ← readInput [Ascii.minus] with
      | .ok content => pure (linesOf content)
      | .error _ => pure []
    let mut columns : List (List Bytes) := []
    let mut taken := 0
    for name in names do
      if isStandard name then
        columns := share standard taken shared :: columns
        taken := taken + 1
      else
        match ← readInput name with
        | .error fault => Run.fail (Quoting.whenNeeded name ++ ascii ": " ++ fault.message)
        | .ok content => columns := linesOf content :: columns
    let longest := (columns.map (·.length)).foldl max 0
    for row in pasteRows ending delimiters longest columns.reverse do Run.say row
    Run.status

/-! Breaking long lines. -/

def advancePlace (bytes : Bool) (place : Nat) (byte : UInt8) : Nat :=
  if bytes then place + 1
  else if byte = 8 then place - 1
  else if byte = Ascii.carriageReturn then 0
  else if byte = Ascii.tab then place + 8 - place % 8
  else place + 1

/-- Break a line.  `part` is what the current piece holds, in reverse.  The number bounds the
work. -/
def foldLine (width : Nat) (bytes spaces : Bool) : Nat → Nat → Bytes → Bytes → List Bytes
  | 0, _, part, rest => [part.reverse ++ rest]
  | _, _, part, [] => if part = [] then [] else [part.reverse]
  | bound + 1, place, part, byte :: rest =>
      let next := advancePlace bytes place byte
      if width < next then
        if part = [] then foldLine width bytes spaces bound next [byte] rest
        else
          let tail := if spaces then part.takeWhile (!isBlank ·) else []
          if spaces ∧ tail.length < part.length then
            let kept := part.drop tail.length
            let place := tail.reverse.foldl (advancePlace bytes) 0
            kept.reverse :: foldLine width bytes spaces bound place tail (byte :: rest)
          else part.reverse :: foldLine width bytes spaces bound 0 [] (byte :: rest)
      else foldLine width bytes spaces bound next (byte :: part) rest

def oldWidth (arguments : List Bytes) : List Bytes :=
  arguments.map fun argument =>
    match argument with
    | Ascii.minus :: digits =>
        if digits ≠ [] ∧ digits.all isDigit then ascii "-w" ++ digits else argument
    | _ => argument

def fold : Main := fun arguments => do
  let parsed ← Run.options
    [flag ["b", "bytes"], flag ["s", "spaces"], valued ["w", "width"]] (oldWidth arguments)
  let width ← match parsed.value? "w" with
    | none => pure 80
    | some text =>
        match Bytes.toNat? text with
        | some (width + 1) => pure (width + 1)
        | some 0 =>
            Run.fail (ascii "invalid number of columns: " ++ Quoting.plain text ++
              ascii ": Numerical result out of range")
        | none => Run.fail (ascii "invalid number of columns: " ++ Quoting.plain text)
  eachInput parsed.operands fun _ content => do
    for line in splitLines content do
      let ended := line.getLast? == some Ascii.newline
      let body := if ended then line.dropLast else line
      let parts := foldLine width (parsed.has "b") (parsed.has "s") (2 * body.length + 2) 0 [] body
      Run.say ([Ascii.newline].intercalate parts ++ (if ended then [Ascii.newline] else []))
  Run.status

/-! Tabs and blanks. -/

/-- Where tabs lead: to the places of a list, and after them to multiples of a number, or on by steps
from the last place. -/
structure TabStops where
  places : List Nat := []
  every : Option Nat := none
  step : Option Nat := none

namespace TabStops

def next? (stops : TabStops) (place : Nat) : Option Nat :=
  let multiple := fun (every offset : Nat) => some (place + every - (place - offset) % every)
  match stops.places, stops.every, stops.step with
  | [], some every, _ | [], none, some every => multiple every 0
  | [], none, none => multiple 8 0
  | [single], none, none => multiple single 0
  | places, every, step =>
      match places.find? (place < ·), every, step with
      | some stop, _, _ => some stop
      | none, some every, _ => multiple every 0
      | none, none, some step => multiple step (places.getLastD 0)
      | none, none, none => none

def add (stops : TabStops) (whole word : Bytes) : Except Bytes TabStops := do
  let (mark, digits) := match word with
    | first :: rest =>
        if first = Ascii.slash ∨ first = Ascii.plus then (some first, rest) else (none, word)
    | [] => (none, [])
  let mark := if (digits.head? = some Ascii.slash ∨ digits.head? = some Ascii.plus) ∧ mark.isSome
    then digits.head? else mark
  let digits := digits.dropWhile fun byte => byte == Ascii.slash || byte == Ascii.plus
  let place := Bytes.valueOf digits
  let refused := fun (mark : String) (text : String) =>
    Except.error (ascii "'" ++ ascii mark ++ ascii "' specifier " ++ ascii text)
  if word = [] then return stops
  match digits.find? fun byte => !isDigit byte with
  | some byte =>
      let rest := digits.dropWhile isDigit
      let shown := rest ++ whole
      if byte = Ascii.slash then
        refused "/" "not at start of number: " |>.mapError (· ++ Quoting.plain shown)
      else if byte = Ascii.plus then
        refused "+" "not at start of number: " |>.mapError (· ++ Quoting.plain shown)
      else
        .error (ascii "tab size contains invalid character(s): " ++ Quoting.plain shown)
  | none =>
      if digits = [] then return stops
      else if mark = some Ascii.slash then
        if stops.every.isSome then refused "/" "only allowed with the last value"
        else return { stops with every := if place = 0 then none else some place }
      else if mark = some Ascii.plus then
        if stops.step.isSome then refused "+" "only allowed with the last value"
        else return { stops with step := if place = 0 then none else some place }
      else return { stops with places := stops.places ++ [place] }

def words : Bytes → Nat → List (Bytes × Bytes)
  | _, 0 => []
  | text, bound + 1 =>
      let isGap := fun (byte : UInt8) => byte == Ascii.comma || isBlank byte
      let word := text.takeWhile (!isGap ·)
      let rest := text.drop word.length
      if rest = [] then [(word, [])] else (word, rest) :: words rest.tail bound

def read (stops : TabStops) (text : Bytes) : Except Bytes TabStops :=
  (words text (text.length + 1)).foldlM (fun stops (word, rest) => stops.add rest word) stops

def fault? (stops : TabStops) : Option Bytes :=
  let rec check (previous : Nat) : List Nat → Option Bytes
    | [] => none
    | place :: rest =>
        if place = 0 then some (ascii "tab size cannot be 0")
        else if place ≤ previous then some (ascii "tab sizes must be ascending")
        else check place rest
  match check 0 stops.places with
  | some message => some message
  | none =>
      if stops.every.isSome ∧ stops.step.isSome then
        some (ascii "'/' specifier is mutually exclusive with '+'")
      else none

end TabStops

def readTabStops (parsed : Parsed) : Run TabStops := do
  match (parsed.values "t").foldlM (fun stops text => stops.read text) ({} : TabStops) with
  | .error message => Run.fail message
  | .ok stops =>
      match stops.fault? with
      | some message => Run.fail message
      | none => return stops

def oldStops (option : String) (arguments : List Bytes) : List Bytes :=
  arguments.map fun argument =>
    match argument with
    | Ascii.minus :: first :: rest =>
        if isDigit first ∧ rest.all fun byte => isDigit byte || byte == Ascii.comma then
          ascii option ++ first :: rest
        else argument
    | _ => argument

def expandLine (stops : TabStops) (initial : Bool) : Nat → Bool → Bytes → Bytes
  | _, _, [] => []
  | place, leading, byte :: rest =>
      if byte = Ascii.tab ∧ (leading ∨ !initial) then
        let stop := (stops.next? place).getD (place + 1)
        List.replicate (stop - place) Ascii.space ++ expandLine stops initial stop leading rest
      else if byte = 8 then byte :: expandLine stops initial (place - 1) false rest
      else
        byte :: expandLine stops initial (place + 1) (leading && isBlank byte) rest

def expand : Main := fun arguments => do
  let parsed ← Run.options [flag ["i", "initial"], valued ["t", "tabs"]] (oldStops "-t" arguments)
  let stops ← readTabStops parsed
  eachInput parsed.operands fun _ content => do
    for line in splitLines content do Run.say (expandLine stops (parsed.has "i") 0 true line)
  Run.status

/-- How far the blanks of a line have been replaced.  `pending` are the blanks that may still become
tabs, in order, and `single` says that the first of them stands alone before a stop. -/
structure Unexpanding where
  place : Nat := 0
  pending : Bytes := []
  single : Bool := false
  afterBlank : Bool := false
  active : Bool := true

namespace Unexpanding

def flushed (state : Unexpanding) : Bytes :=
  match state.pending with
  | _ :: second :: rest =>
      if state.single then Ascii.tab :: second :: rest else state.pending
  | pending => pending

def put (all isBlankByte : Bool) (state : Unexpanding) (byte : UInt8) : Unexpanding × Bytes :=
  ({ state with
      pending := [], single := state.single && state.pending.isEmpty
      afterBlank := isBlankByte, active := state.active && (all || isBlankByte) },
    state.flushed ++ [byte])

def step (stops : TabStops) (all : Bool) (state : Unexpanding) (byte : UInt8) :
    Unexpanding × Bytes :=
  if !state.active then (state, [byte])
  else if byte = Ascii.space ∨ byte = Ascii.tab then
    match stops.next? state.place with
    | none => put all true { state with active := false } byte
    | some stop =>
        let kept := fun (pending : Bytes) =>
          if state.single then pending.take 1 else []
        if byte = Ascii.tab then
          let pending := match state.pending with
            | _ :: rest => Ascii.tab :: rest
            | [] => []
          put all true { state with place := stop, pending := kept pending } Ascii.tab
        else
          let place := state.place + 1
          if state.afterBlank ∧ place = stop then
            let pending := Ascii.tab :: state.pending.drop 1
            put all true { state with place, pending := kept pending } Ascii.tab
          else
            ({ state with
                place, pending := state.pending ++ [byte], afterBlank := true
                single := state.single || place = stop }, [])
  else if byte = 8 then put all false { state with place := state.place - 1 } byte
  else put all false { state with place := state.place + 1 } byte

end Unexpanding

def unexpandLine (stops : TabStops) (all : Bool) (state : Unexpanding) : Bytes → Bytes
  | [] => state.flushed
  | byte :: rest =>
      let (state, shown) := state.step stops all byte
      shown ++ unexpandLine stops all state rest

def unexpand : Main := fun arguments => do
  let parsed ← Run.options
    [flag ["a", "all"], flag ["first-only"], valued ["t", "tabs"], valued ["old"]]
    (oldStops "--old=" arguments)
  let stops ← readTabStops { parsed with given := parsed.given.map fun given =>
    if given.name = "old" then { given with name := "t" } else given }
  let all := (parsed.has "a" || parsed.has "t") && !parsed.has "first-only"
  eachInput parsed.operands fun _ content => do
    for line in splitLines content do
      let ended := line.getLast? == some Ascii.newline
      let body := if ended then line.dropLast else line
      Run.say (unexpandLine stops all {} body ++ (if ended then [Ascii.newline] else []))
  Run.status

end Rpn.Tool
