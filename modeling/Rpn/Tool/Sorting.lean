import Rpn.Text.Calendar
import Rpn.Text.Numeral
import Rpn.Text.Ordering
import Rpn.Tool.Fields

/-! Tools that put lines in order and compare lines that are in order.  Only serves the test
environment. -/

namespace Rpn.Tool

open Host Text

/-! Sorting. -/

structure SortManner where
  numeric : Option Char := none
  reverse : Bool := false
  folded : Bool := false
  dictionary : Bool := false
  printable : Bool := false
  blanksStart : Bool := false
  blanksEnd : Bool := false

def SortManner.isPlain (manner : SortManner) : Bool :=
  manner.numeric.isNone && !manner.reverse && !manner.folded && !manner.dictionary &&
    !manner.printable && !manner.blanksStart && !manner.blanksEnd

/-- A part of a line: from a field and byte to a field and byte. -/
structure SortKey where
  startField : Nat
  startByte : Nat
  endField : Option Nat := none
  endByte : Nat := 0
  manner : SortManner

/-- Take letters that say how to compare.  `atEnd` says that they stand after the end of a key. -/
def readSortLetters (atEnd : Bool) : SortManner → Bytes → SortManner × Bytes
  | manner, [] => (manner, [])
  | manner, letter :: rest =>
      match Char.ofNat letter.toNat with
      | 'b' =>
          readSortLetters atEnd
            (if atEnd then { manner with blanksEnd := true }
            else { manner with blanksStart := true }) rest
      | 'd' => readSortLetters atEnd { manner with dictionary := true } rest
      | 'f' => readSortLetters atEnd { manner with folded := true } rest
      | 'i' => readSortLetters atEnd { manner with printable := true } rest
      | 'r' => readSortLetters atEnd { manner with reverse := true } rest
      | 'n' | 'g' | 'h' | 'M' | 'V' | 'R' =>
          readSortLetters atEnd { manner with numeric := some (Char.ofNat letter.toNat) } rest
      | _ => (manner, letter :: rest)

def readKeyNumber (message : String) (text : Bytes) : Except Bytes (Nat × Bytes) :=
  let digits := text.takeWhile isDigit
  if digits = [] then
    .error (ascii message ++ ascii ": invalid count at start of " ++ Quoting.plain text)
  else .ok (Bytes.valueOf digits, text.drop digits.length)

def refuseKey {α : Type} (text : Bytes) (message : String) : Except Bytes α :=
  .error (ascii message ++ ascii ": invalid field specification " ++ Quoting.plain text)

def readSortKey (text : Bytes) : Except Bytes SortKey := do
  let (field, rest) ← readKeyNumber "invalid number at field start" text
  if field = 0 then refuseKey text "field number is zero"
  else
    let (byte, rest) ← match rest with
      | Ascii.dot :: rest =>
          let (byte, rest) ← readKeyNumber "invalid number after '.'" rest
          if byte = 0 then refuseKey text "character offset is zero" else pure (byte, rest)
      | rest => pure (1, rest)
    let (manner, rest) := readSortLetters false {} rest
    let key : SortKey := { startField := field - 1, startByte := byte - 1, manner }
    match rest with
    | [] => return key
    | Ascii.comma :: rest =>
        let (field, rest) ← readKeyNumber "invalid number after ','" rest
        if field = 0 then refuseKey text "field number is zero"
        else
          let (byte, rest) ← match rest with
            | Ascii.dot :: rest => readKeyNumber "invalid number after '.'" rest
            | rest => pure (0, rest)
          let (manner, rest) := readSortLetters true manner rest
          if rest = [] then
            return { key with endField := some (field - 1), endByte := byte, manner }
          else refuseKey text "stray character in field spec"
    | _ => refuseKey text "stray character in field spec"

def skipFields (separator : Option UInt8) : Nat → Bytes → Bytes
  | 0, line => line
  | count + 1, line =>
      match separator with
      | some byte => skipFields separator count ((line.dropWhile (· != byte)).drop 1)
      | none =>
          skipFields separator count ((line.dropWhile isBlank).dropWhile (!isBlank ·))

def keyTail (separator : Option UInt8) (key : SortKey) (line : Bytes) : Bytes :=
  match key.endField with
  | none => []
  | some field =>
      if key.endByte = 0 then
        let start := skipFields separator field line
        match separator with
        | some byte => start.dropWhile (· != byte)
        | none => (start.dropWhile isBlank).dropWhile (!isBlank ·)
      else
        let start := skipFields separator field line
        let start := if key.manner.blanksEnd then start.dropWhile isBlank else start
        start.drop key.endByte

def keyText (separator : Option UInt8) (key : SortKey) (line : Bytes) : Bytes :=
  let start := skipFields separator key.startField line
  let start := if key.manner.blanksStart then start.dropWhile isBlank else start
  let start := start.drop key.startByte
  let tail := keyTail separator key line
  start.take (start.length - tail.length)

def monthNumber (text : Bytes) : Nat :=
  let word := ((text.dropWhile isBlank).take 3).map toUpper
  match Calendar.monthNames.findIdx? fun name => ((ascii name).take 3).map toUpper == word with
  | some index => index + 1
  | none => 0

def compareHuman (left right : Bytes) : Ordering :=
  let weigh := fun (text : Bytes) =>
    let (numeral, rest) := Numeral.read text
    let letter := match rest with
      | byte :: _ =>
          let letter := if byte = 107 then 75 else byte
          ((ascii "KMGTPEZYRQ").idxOf? letter).elim 0 (· + 1)
      | [] => 0
    let isZero := (numeral.whole ++ numeral.places).all (· == Ascii.zero)
    let weight : Int := if isZero then 0 else if numeral.negative then -(letter : Int) - 1
      else letter + 1
    (weight, numeral)
  let (firstWeight, first) := weigh left
  let (secondWeight, second) := weigh right
  Ordering.refine (compare firstWeight secondWeight) fun _ => Numeral.compare first second

def normalised (manner : SortManner) (text : Bytes) : Bytes :=
  let text := if manner.dictionary then
      text.filter fun byte => isBlank byte || isLetter byte || isDigit byte
    else if manner.printable then text.filter Quoting.isShown
    else text
  if manner.folded then text.map toUpper else text

def compareTexts (manner : SortManner) (left right : Bytes) : Ordering :=
  let order := match manner.numeric with
    | some 'n' => Numeral.compare (Numeral.read left).1 (Numeral.read right).1
    | some 'g' => compareFloats left right
    | some 'h' => compareHuman left right
    | some 'M' => compare (monthNumber left) (monthNumber right)
    | some 'V' => Ordering.versions (normalised manner left) (normalised manner right)
    | _ => Ordering.bytes (normalised manner left) (normalised manner right)
  if manner.reverse then order.swap else order

structure SortRules where
  keys : List SortKey
  separator : Option UInt8
  whole : SortManner
  stable : Bool
  unique : Bool

def compareKeys (rules : SortRules) (left right : Bytes) : Ordering :=
  match rules.keys with
  | [] =>
      let manner := rules.whole
      let trim := fun (line : Bytes) =>
        if manner.blanksStart then line.dropWhile isBlank else line
      compareTexts manner (trim left) (trim right)
  | keys =>
      keys.foldl (fun order key => Ordering.refine order fun _ =>
        compareTexts key.manner (keyText rules.separator key left)
          (keyText rules.separator key right)) .eq

def compareLines (rules : SortRules) (left right : Bytes) : Ordering :=
  Ordering.refine (compareKeys rules left right) fun _ =>
    if rules.stable || rules.unique then .eq
    else
      let order := Ordering.bytes left right
      if rules.whole.reverse then order.swap else order

def dropEqual (rules : SortRules) : List Bytes → List Bytes
  | [] => []
  | [line] => [line]
  | first :: second :: rest =>
      if compareKeys rules first second == .eq then dropEqual rules (first :: rest)
      else first :: dropEqual rules (second :: rest)
termination_by lines => lines.length

def mergeLists (rules : SortRules) : Nat → List (List Bytes) → List Bytes
  | 0, _ => []
  | bound + 1, lists =>
      let lists := lists.filter (!·.isEmpty)
      let heads := (List.range lists.length).zip (lists.map fun list => list.headD [])
      match heads with
      | [] => []
      | first :: others =>
          let best := others.foldl (fun (best : Nat × Bytes) (other : Nat × Bytes) =>
            if compareLines rules best.2 other.2 == .gt then other else best) first
          best.2 :: mergeLists rules bound (lists.modify best.1 List.tail)

def findDisorder (rules : SortRules) : Nat → List Bytes → Option (Nat × Bytes)
  | number, first :: second :: rest =>
      let order := compareLines rules first second
      if order == .gt || (rules.unique && order == .eq) then some (number + 1, second)
      else findDisorder rules (number + 1) (second :: rest)
  | _, _ => none

def sortChoices : List Choice :=
  [ flag ["b", "ignore-leading-blanks"], flag ["d", "dictionary-order"], flag ["f", "ignore-case"],
    flag ["g", "general-numeric-sort"], flag ["i", "ignore-nonprinting"], flag ["M", "month-sort"],
    flag ["h", "human-numeric-sort"], flag ["n", "numeric-sort"], flag ["R", "random-sort"],
    flag ["r", "reverse"], flag ["V", "version-sort"], valued ["sort"], valued ["batch-size"],
    perhapsValued ["check"], flag ["c"], flag ["C"], valued ["compress-program"], flag ["debug"],
    valued ["files0-from"], valued ["k", "key"], flag ["m", "merge"], valued ["o", "output"],
    flag ["s", "stable"], valued ["S", "buffer-size"], valued ["t", "field-separator"],
    valued ["T", "temporary-directory"], valued ["parallel"], flag ["u", "unique"],
    flag ["z", "zero-terminated"], valued ["random-source"] ]

def sort : Main := fun arguments => do
  let parsed ← Run.options sortChoices arguments false 2
  let whole : SortManner :=
    { numeric := match parsed.last? ["n", "g", "h", "M", "V", "R", "sort"] with
        | some "sort" =>
            match (parsed.value? "sort").getD [] with
            | 110 :: _ => some 'n'
            | 103 :: _ => some 'g'
            | 104 :: _ => some 'h'
            | 109 :: _ => some 'M'
            | 118 :: _ => some 'V'
            | _ => none
        | some name => some name.front
        | none => none
      reverse := parsed.has "r", folded := parsed.has "f", dictionary := parsed.has "d"
      printable := parsed.has "i", blanksStart := parsed.has "b", blanksEnd := parsed.has "b" }
  let keys ← (parsed.values "k").mapM fun text =>
    match readSortKey text with
    | .ok key => pure (if key.manner.isPlain then { key with manner := whole } else key)
    | .error message => Run.fail message 2
  let separator ← match parsed.value? "t" with
    | none => pure none
    | some [byte] => pure (some byte)
    | some text =>
        if text = ascii "\\0" then pure (some 0)
        else if text = [] then Run.fail (ascii "empty tab") 2
        else Run.fail (ascii "multi-character tab " ++ Quoting.plain text) 2
  let rules : SortRules :=
    { keys, separator, whole, stable := parsed.has "s", unique := parsed.has "u" }
  let ending := lineEnding parsed
  let given ← match parsed.value? "files0-from" with
    | none => pure parsed.operands
    | some list =>
        match ← readInput list with
        | .ok text => pure ((text.splitOn 0).filter (· ≠ []))
        | .error fault =>
            Run.fail (ascii "cannot open " ++ Quoting.whenNeeded list ++ ascii ": " ++
              fault.message) 2
  let names := if given = [] then [[Ascii.minus]] else given
  let checks := parsed.has "c" || parsed.has "C" || parsed.has "check"
  match checks, names with
  | true, _ :: extra :: _ =>
      Run.fail (ascii "extra operand " ++ Quoting.always extra ++ ascii " not allowed with -" ++
        ascii (if parsed.has "C" then "C" else "c")) 2
  | _, _ => pure ()
  let lists ← names.mapM fun name => do
    match ← openInput name with
    | .error fault =>
        Run.fail (ascii "cannot read: " ++ Quoting.whenNeeded name ++ ascii ": " ++ fault.message) 2
    | .ok number =>
        match ← Act.readAll number with
        | .error fault =>
            Run.fail (ascii "read failed: " ++ Quoting.whenNeeded name ++ ascii ": " ++
              fault.message) 2
        | .ok text =>
            if number ≠ 0 then Act.close number
            pure ((units false ending text).map fun line =>
              if line.getLast? = some ending then line.dropLast else line)
  if checks then
    match findDisorder rules 1 lists.flatten with
    | none => return 0
    | some (number, line) =>
        let quiet := parsed.has "C" || ((parsed.value? "check").any fun word =>
          word == ascii "quiet" || word == ascii "silent")
        if !quiet then
          Run.complain ((names.headD []) ++ Ascii.colon :: Bytes.ofNat number ++
            ascii ": disorder: " ++ line)
        return 1
  else
    let total := (lists.map (·.length)).foldl (· + ·) 0
    let sorted := if parsed.has "m" then mergeLists rules (total + 1) lists
      else lists.flatten.mergeSort fun left right => compareLines rules left right != .gt
    let sorted := if rules.unique then dropEqual rules sorted else sorted
    match parsed.value? "o" with
    | none =>
        for line in sorted do Run.say (line ++ [ending])
        return 0
    | some path =>
        match ← Act.openPath path { write := true, create := true, truncate := true } with
        | .error fault =>
            Run.fail (ascii "open failed: " ++ Quoting.whenNeeded path ++ ascii ": " ++
              fault.message) 2
        | .ok number =>
            let _ ← Act.write number (sorted.map (· ++ [ending])).flatten
            Act.close number
            return 0

/-! Lines that are repeated. -/

structure UniqManner where
  skipFields : Nat
  skipBytes : Nat
  compared : Option Nat
  folded : Bool

def UniqManner.key (manner : UniqManner) (line : Bytes) : Bytes :=
  let rest := skipSome manner.skipFields line
  let rest := rest.drop manner.skipBytes
  let rest := match manner.compared with
    | some count => rest.take count
    | none => rest
  if manner.folded then rest.map toLower else rest
where
  skipSome : Nat → Bytes → Bytes
    | 0, line => line
    | count + 1, line => skipSome count ((line.dropWhile isBlank).dropWhile (!isBlank ·))

def equalGroups (manner : UniqManner) (lines : List Bytes) : List (List Bytes) :=
  lines.splitBy fun left right => manner.key left == manner.key right

def uniq : Main := fun arguments => do
  let parsed ← Run.options
    [flag ["c", "count"], flag ["d", "repeated"], flag ["D"], perhapsValued ["all-repeated"],
      valued ["f", "skip-fields"], perhapsValued ["group"], flag ["i", "ignore-case"],
      valued ["s", "skip-chars"], flag ["u", "unique"], flag ["z", "zero-terminated"],
      valued ["w", "check-chars"]] arguments
  let number := fun (letter what : String) => do
    match parsed.value? letter with
    | none => pure none
    | some text =>
        match Bytes.toNat? text with
        | some value => pure (some value)
        | none => Run.fail (text ++ ascii ": invalid number of " ++ ascii what)
  let manner : UniqManner :=
    { skipFields := (← number "f" "fields to skip").getD 0
      skipBytes := (← number "s" "bytes to skip").getD 0
      compared := ← number "w" "bytes to compare", folded := parsed.has "i" }
  let (input, output) ← match parsed.operands with
    | [] => pure ([Ascii.minus], none)
    | [input] => pure (input, none)
    | [input, output] =>
        pure (input, if isStandard output then none else some output)
    | _ :: _ :: extra :: _ => Run.failWithHint (ascii "extra operand " ++ Quoting.plain extra)
  let ending := lineEnding parsed
  match ← readInput input with
  | .error fault => Run.fail (Quoting.whenNeeded input ++ ascii ": " ++ fault.message)
  | .ok text =>
      let lines := (units false ending text).map fun line =>
        if line.getLast? = some ending then line.dropLast else line
      let groups := equalGroups manner lines
      let isAll := parsed.has "D" || parsed.has "all-repeated"
      let groups := groups.filter fun group =>
        let repeated := 1 < group.length
        !((parsed.has "d" || isAll) && !repeated) && !(parsed.has "u" && repeated)
      let shown : List (List Bytes) := groups.map fun group =>
        if isAll ∨ parsed.has "group" then group
        else
          let line := group.headD []
          if parsed.has "c" then [rightAligned 7 (.ofNat group.length) ++ Ascii.space :: line]
          else [line]
      let separation := match parsed.last? ["D", "all-repeated", "group"] with
        | some "group" => (parsed.value? "group").getD (ascii "separate")
        | some "all-repeated" => (parsed.value? "all-repeated").getD (ascii "none")
        | _ => ascii "none"
      let isNone := separation == ascii "none"
      let before := separation == ascii "prepend" || separation == ascii "both"
      let after := separation == ascii "append" || separation == ascii "both"
      let indexed := (List.range shown.length).zip shown
      let pieces := indexed.map fun (index, group) =>
        let gap := !isNone && (if index = 0 then before else true)
        (if gap then [ending] else []) ++ (group.map (· ++ [ending])).flatten
      let pieces := if after ∧ shown ≠ [] then pieces ++ [[ending]] else pieces
      match output with
      | none =>
          for piece in pieces do Run.say piece
          return 0
      | some path =>
          match ← Act.openPath path { write := true, create := true, truncate := true } with
          | .error fault => Run.fail (Quoting.whenNeeded path ++ ascii ": " ++ fault.message)
          | .ok number =>
              let _ ← Act.write number pieces.flatten
              Act.close number
              return 0

/-! Lines that two files share. -/

inductive Side where
  | left
  | right
  | both
  deriving DecidableEq

def compareLists : Nat → List Bytes → List Bytes → List (Side × Bytes)
  | 0, _, _ => []
  | _, [], [] => []
  | bound + 1, line :: rest, [] => (.left, line) :: compareLists bound rest []
  | bound + 1, [], line :: rest => (.right, line) :: compareLists bound [] rest
  | bound + 1, first :: left, second :: right =>
      match Ordering.bytes first second with
      | .lt => (.left, first) :: compareLists bound left (second :: right)
      | .gt => (.right, second) :: compareLists bound (first :: left) right
      | .eq => (.both, first) :: compareLists bound left right

def isSorted (lines : List Bytes) : Bool :=
  (lines.zip lines.tail).all fun (first, second) => Ordering.bytes first second != .gt

def comm : Main := fun arguments => do
  let parsed ← Run.options
    [flag ["1"], flag ["2"], flag ["3"], flag ["check-order"], flag ["nocheck-order"],
      valued ["output-delimiter"], flag ["total"], flag ["z", "zero-terminated"]] arguments
  let (first, second) ← match parsed.operands with
    | [] => Run.failWithHint (ascii "missing operand")
    | [name] => Run.failWithHint (ascii "missing operand after " ++ Quoting.plain name)
    | [first, second] => pure (first, second)
    | _ :: _ :: extra :: _ => Run.failWithHint (ascii "extra operand " ++ Quoting.plain extra)
  let ending := lineEnding parsed
  let read := fun (name : Bytes) => do
    match ← readInput name with
    | .ok text =>
        pure ((units false ending text).map fun line =>
          if line.getLast? = some ending then line.dropLast else line)
    | .error fault => Run.fail (Quoting.whenNeeded name ++ ascii ": " ++ fault.message)
  let left ← read first
  let right ← read second
  let found := compareLists (left.length + right.length + 1) left right
  let delimiter := match parsed.value? "output-delimiter" with
    | some [] => [0]
    | some delimiter => delimiter
    | none => [Ascii.tab]
  let indent := fun (columns : List String) =>
    (List.replicate (columns.filter (!parsed.has ·)).length delimiter).flatten
  for (side, line) in found do
    match side with
    | .left => if !parsed.has "1" then Run.say (line ++ [ending])
    | .right => if !parsed.has "2" then Run.say (indent ["1"] ++ line ++ [ending])
    | .both => if !parsed.has "3" then Run.say (indent ["1", "2"] ++ line ++ [ending])
  if parsed.has "total" then
    let count := fun (side : Side) =>
      Bytes.ofNat (found.filter fun (entry : Side × Bytes) => entry.1 == side).length
    Run.say (delimiter.intercalate [count .left, count .right, count .both, ascii "total"] ++
      [ending])
  let mut disordered := false
  if !parsed.has "nocheck-order" then
    for (number, lines) in [("1", left), ("2", right)] do
      if !isSorted lines then
        let differs := found.any fun (entry : Side × Bytes) => entry.1 != .both
        if differs ∨ parsed.has "check-order" then
          Run.worry (ascii "file " ++ ascii number ++ ascii " is not in sorted order")
          disordered := true
  if disordered ∧ !parsed.has "check-order" then
    Run.worry (ascii "input is not in sorted order")
  Run.status

/-! Joining lines by a field. -/

structure JoinManner where
  separator : Option UInt8
  folded : Bool
  firstField : Nat
  secondField : Nat
  output : Option (List (Nat × Nat))
  automatic : Bool
  empty : Bytes

def joinFields (separator : Option UInt8) (line : Bytes) : List Bytes :=
  match separator with
  | some byte => line.splitOn byte
  | none => ((line.map fun byte => if isBlank byte then Ascii.space else byte).splitOn Ascii.space).filter (· ≠ [])

def JoinManner.key (manner : JoinManner) (fields : List Bytes) (index : Nat) : Bytes :=
  let key := fields.getD index []
  if manner.folded then key.map toLower else key

def joinedLine (manner : JoinManner) (widths : Nat × Nat) (first second : Option (List Bytes)) :
    Bytes :=
  let field := fun (side : Option (List Bytes)) (index : Nat) =>
    match side.bind (·[index]?) with
    | some [] | none => manner.empty
    | some text => text
  let filled := fun (text : Bytes) => if text = [] then manner.empty else text
  let key := filled (match first, second with
    | some fields, _ => fields.getD manner.firstField []
    | none, some fields => fields.getD manner.secondField []
    | none, none => [])
  let separator := match manner.separator with
    | some byte => [byte]
    | none => [Ascii.space]
  let others := fun (fields : List Bytes) (index : Nat) => fields.eraseIdx index
  let parts := match manner.output, manner.automatic with
    | some list, _ =>
        list.map fun (side, index) =>
          if side = 0 then key
          else if side = 1 then field first (index - 1) else field second (index - 1)
    | none, true =>
        key :: ((((List.range widths.1).filter (· ≠ manner.firstField)).map fun index =>
          field first index) ++
          (((List.range widths.2).filter (· ≠ manner.secondField)).map fun index =>
            field second index))
    | none, false =>
        key :: (((first.map fun fields => others fields manner.firstField).getD [] ++
          (second.map fun fields => others fields manner.secondField).getD []).map filled)
  separator.intercalate parts

/-- Which lines are shown: pairs, and lines of one side without a partner. -/
structure JoinShown where
  pairs : Bool
  left : Bool
  right : Bool

def joinLists (manner : JoinManner) (shown : JoinShown) (widths : Nat × Nat) :
    Nat → List (List Bytes) → List (List Bytes) → List Bytes
  | 0, _, _ => []
  | _, [], [] => []
  | bound + 1, first :: left, [] =>
      (if shown.left then [joinedLine manner widths (some first) none] else []) ++
        joinLists manner shown widths bound left []
  | bound + 1, [], second :: right =>
      (if shown.right then [joinedLine manner widths none (some second)] else []) ++
        joinLists manner shown widths bound [] right
  | bound + 1, first :: left, second :: right =>
      let key := manner.key first manner.firstField
      let other := manner.key second manner.secondField
      match Ordering.bytes key other with
      | .lt =>
          (if shown.left then [joinedLine manner widths (some first) none] else []) ++
            joinLists manner shown widths bound left (second :: right)
      | .gt =>
          (if shown.right then [joinedLine manner widths none (some second)] else []) ++
            joinLists manner shown widths bound (first :: left) right
      | .eq =>
          let isSame := fun (index : Nat) (fields : List Bytes) => manner.key fields index == key
          let lefts := (first :: left).takeWhile (isSame manner.firstField)
          let rights := (second :: right).takeWhile (isSame manner.secondField)
          let pairs := lefts.flatMap fun one => rights.map fun two =>
            joinedLine manner widths (some one) (some two)
          (if shown.pairs then pairs else []) ++
            joinLists manner shown widths bound ((first :: left).drop lefts.length)
              ((second :: right).drop rights.length)

def readJoinList (text : Bytes) : Option (List (Nat × Nat)) :=
  let parts := (text.map fun byte => if isBlank byte then Ascii.comma else byte).splitOn Ascii.comma
  parts.mapM fun part =>
    match part with
    | [Ascii.zero] => some (0, 0)
    | side :: Ascii.dot :: digits => do
        let index ← Bytes.toNat? digits
        let side := Bytes.digitValue side
        if side = 1 ∨ side = 2 then some (side, index) else none
    | _ => none

def join : Main := fun arguments => do
  let parsed ← Run.options
    [valued ["a"], valued ["e"], flag ["i", "ignore-case"], valued ["j"], valued ["o"],
      valued ["t"], valued ["v"], valued ["1"], valued ["2"], flag ["check-order"],
      flag ["nocheck-order"], flag ["header"], flag ["z", "zero-terminated"]] arguments
  let (firstName, secondName) ← match parsed.operands with
    | [] => Run.failWithHint (ascii "missing operand")
    | [name] => Run.failWithHint (ascii "missing operand after " ++ Quoting.plain name)
    | [first, second] => pure (first, second)
    | _ :: _ :: extra :: _ => Run.failWithHint (ascii "extra operand " ++ Quoting.plain extra)
  let field := fun (letter : String) => do
    match (parsed.value? letter).orElse fun _ => parsed.value? "j" with
    | none => pure 0
    | some text =>
        match Bytes.toNat? text with
        | some (index + 1) => pure index
        | _ => Run.fail (ascii "invalid field number: " ++ Quoting.plain text)
  let automatic := parsed.value? "o" == some (ascii "auto")
  let output ← match parsed.values "o", automatic with
    | [], _ | _, true => pure none
    | texts, false =>
        match texts.mapM readJoinList with
        | some lists => pure (some lists.flatten)
        | none =>
            Run.fail (ascii "invalid field specifier: " ++ Quoting.plain (texts.headD []))
  let manner : JoinManner :=
    { separator := (parsed.value? "t").bind (·.head?), folded := parsed.has "i"
      firstField := ← field "1", secondField := ← field "2", output, automatic
      empty := (parsed.value? "e").getD [] }
  let ending := lineEnding parsed
  let read := fun (name : Bytes) => do
    match ← readInput name with
    | .ok text =>
        pure ((units false ending text).map fun line =>
          joinFields manner.separator (if line.getLast? = some ending then line.dropLast else line))
    | .error fault => Run.fail (Quoting.whenNeeded name ++ ascii ": " ++ fault.message)
  let left ← read firstName
  let right ← read secondName
  let asked := fun (letter : String) (side : String) => (parsed.values letter).contains (ascii side)
  let shown : JoinShown :=
    { pairs := !parsed.has "v", left := asked "a" "1" || asked "v" "1"
      right := asked "a" "2" || asked "v" "2" }
  let widths := ((left.headD []).length, (right.headD []).length)
  let lines ← match parsed.has "header", left, right with
    | true, first :: left, second :: right =>
        pure (joinedLine manner widths (some first) (some second) ::
          joinLists manner shown widths (left.length + right.length + 1) left right)
    | _, left, right => pure (joinLists manner shown widths (left.length + right.length + 1) left right)
  for line in lines do Run.say (line ++ [ending])
  Run.status

end Rpn.Tool
