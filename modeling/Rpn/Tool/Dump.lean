import Rpn.Text.Directive
import Rpn.Tool.Lines

/-! Tools that show the bytes of files as numbers and compare files byte by byte.  Only serves the
test environment. -/

namespace Rpn.Tool

open Host Text

/-! Dumps. -/

inductive DumpKind where
  | character
  | named
  | signed
  | unsigned
  | octal
  | hexadecimal
  | float
  deriving DecidableEq

/-- A form of a dump: the kind, how many bytes make an item, and whether the text is shown at the
end of lines. -/
structure DumpForm where
  kind : DumpKind
  size : Nat
  shown : Bool := false

def byteNames : List String :=
  ["nul", "soh", "stx", "etx", "eot", "enq", "ack", "bel", "bs", "ht", "nl", "vt", "ff", "cr",
    "so", "si", "dle", "dc1", "dc2", "dc3", "dc4", "nak", "syn", "etb", "can", "em", "sub", "esc",
    "fs", "gs", "rs", "us", "sp"]

def dumpWidth (form : DumpForm) : Nat :=
  let bySize := fun (one two four eight : Nat) =>
    if form.size = 1 then one else if form.size = 2 then two else if form.size = 4 then four
    else eight
  match form.kind with
  | .character | .named => 3
  | .signed => bySize 4 6 11 20
  | .unsigned => bySize 3 5 10 20
  | .octal => bySize 3 6 11 22
  | .hexadecimal => bySize 2 4 8 16
  | .float => bySize 15 15 15 24

def digitsIn (base width value : Nat) : Bytes :=
  let digits := (Nat.toDigits base value).map Char.toUInt8
  List.replicate (width - digits.length) Ascii.zero ++ digits

def shortestFloat (isSame : Bytes → Bool) (value : Binary) : Nat → Nat → Bytes
  | 0, _ => []
  | bound + 1, digits =>
      let text := Directive.binary { letter := 103, precision := some digits } Binary.double 1 value
      if isSame text ∨ bound = 0 then text else shortestFloat isSame value bound (digits + 1)

def floatText (size value : Nat) : Bytes :=
  let number : Float :=
    if size = 4 then (Float32.ofBits value.toUInt32).toFloat else Float.ofBits value.toUInt64
  let binary := Binary.ofFloat number
  let isSame := fun (text : Bytes) =>
    match Binary.readPrefix? Binary.double text with
    | some (found, _) =>
        let back := Binary.toFloat found
        if size = 4 then back.toFloat32 == number.toFloat32 else back == number
    | none => true
  shortestFloat isSame binary 17 1

def dumpItem (form : DumpForm) (bytes : Bytes) : Bytes :=
  let value := bytes.reverse.foldl (fun number byte => number * 256 + byte.toNat) 0
  match form.kind with
  | .character =>
      let byte := bytes.headD 0
      match ([0, 7, 8, 9, 10, 11, 12, 13] : Bytes).zip (ascii "0abtnvfr") |>.lookup byte with
      | some letter => [Ascii.backslash, letter]
      | none => if Quoting.isShown byte then [byte] else digitsIn 8 3 byte.toNat
  | .named =>
      let byte := (bytes.headD 0) % 128
      if byte = 127 then ascii "del"
      else
        match byteNames[byte.toNat]? with
        | some name => ascii name
        | none => [byte]
  | .signed =>
      let half := Nat.pow 2 (8 * form.size - 1)
      Bytes.ofInt (if half ≤ value then (value : Int) - 2 * half else value)
  | .unsigned => Bytes.ofNat value
  | .octal => digitsIn 8 (dumpWidth form) value
  | .hexadecimal => digitsIn 16 (dumpWidth form) value
  | .float => floatText form.size value

def itemsOf (size : Nat) : Nat → Bytes → List Bytes
  | 0, _ => []
  | _, [] => []
  | bound + 1, bytes =>
      let item := bytes.take size
      (item ++ List.replicate (size - item.length) 0) :: itemsOf size bound (bytes.drop size)

/-- The items of a line, each with blanks before it so that lines of several forms agree.  `count`
is how many there are in a full line, and `pad` how many blanks they share. -/
def spacedItems (form : DumpForm) (count pad : Nat) (bigFirst : Bool) (items : List Bytes) :
    Bytes :=
  ((List.range items.length).zip items).flatMap fun (index, item) =>
    let before := pad * (count - index) / count
    let after := pad * (count - index - 1) / count
    rightAligned (dumpWidth form + 1 + (before - after)) 
      (dumpItem form (if bigFirst then item.reverse else item))

structure DumpManner where
  forms : List DumpForm
  address : UInt8
  width : Nat
  all : Bool
  bigFirst : Bool := false

def addressText (manner : DumpManner) (place : Nat) : Bytes :=
  match Char.ofNat manner.address.toNat with
  | 'n' => []
  | 'd' => List.replicate (7 - (Bytes.ofNat place).length) Ascii.zero ++ .ofNat place
  | 'x' => digitsIn 16 6 place
  | _ => digitsIn 8 7 place

def dumpBlock (manner : DumpManner) (place : Nat) (block : Bytes) : Bytes :=
  let total := fun (form : DumpForm) => (dumpWidth form + 1) * (manner.width / form.size)
  let widest := (manner.forms.map total).foldl max 0
  let lines := manner.forms.map fun form =>
    let count := manner.width / form.size
    let pad := widest - total form
    let items := itemsOf form.size (block.length + 1) block
    let shown := spacedItems form count pad manner.bigFirst items
    if form.shown then
      let text := block.map fun byte => if Quoting.isShown byte then byte else Ascii.dot
      shown ++ List.replicate (widest - shown.length) Ascii.space ++ ascii "  >" ++ text ++
        ascii "<"
    else shown
  let address := addressText manner place
  let indent := List.replicate address.length Ascii.space
  match lines with
  | [] => []
  | first :: rest =>
      Bytes.line (address ++ first) ++ rest.flatMap fun line => Bytes.line (indent ++ line)

/-- All lines of a dump.  A block that repeats the one before is left out, with a star for all of
them. -/
def dumpLines (manner : DumpManner) :
    Nat → Nat → Option Bytes → Bool → Bytes → List Bytes
  | 0, place, _, _, _ => [addressText manner place]
  | _, place, _, _, [] =>
      let address := addressText manner place
      if address = [] then [] else [Bytes.line address]
  | bound + 1, place, last, starred, data =>
      let block := data.take manner.width
      let rest := data.drop manner.width
      let next := place + block.length
      if !manner.all ∧ last = some block ∧ block.length = manner.width then
        (if starred then [] else [ascii "*\n"]) ++
          dumpLines manner bound next (some block) true rest
      else dumpBlock manner place block :: dumpLines manner bound next (some block) false rest

def readFormSize (kind : DumpKind) (text : Bytes) : Nat × Bytes :=
  let usual := if kind = .float then 8 else 4
  match text with
  | [] => (usual, [])
  | letter :: rest =>
      if isDigit letter then
        let digits := text.takeWhile isDigit
        (Bytes.valueOf digits, text.drop digits.length)
      else
        match Char.ofNat letter.toNat with
        | 'C' => (1, rest)
        | 'S' => (2, rest)
        | 'I' => (4, rest)
        | 'L' => (8, rest)
        | 'F' => (4, rest)
        | 'D' => (8, rest)
        | _ => (usual, text)

def readForms (whole : Bytes) : Nat → Bytes → Except Bytes (List DumpForm)
  | 0, _ => .ok []
  | _, [] => .ok []
  | bound + 1, letter :: rest => do
      let sized := fun (kind : DumpKind) => do
        let (size, rest) := readFormSize kind rest
        if !([1, 2, 4, 8].contains size) then
          .error (ascii "invalid type string " ++ Quoting.plain whole ++
            ascii ";\nthis system doesn't provide a " ++ .ofNat size ++ ascii "-byte integral type")
        else
          let (shown, rest) := withText rest
          return { kind, size, shown } :: (← readForms whole bound rest)
      let plain := fun (kind : DumpKind) => do
        let (shown, rest) := withText rest
        return { kind, size := 1, shown } :: (← readForms whole bound rest)
      match Char.ofNat letter.toNat with
      | 'a' => plain .named
      | 'c' => plain .character
      | 'd' => sized .signed
      | 'u' => sized .unsigned
      | 'o' => sized .octal
      | 'x' => sized .hexadecimal
      | 'f' => sized .float
      | _ =>
          .error (ascii "invalid character '" ++ letter :: ascii "' in type string " ++
            Quoting.plain whole)
where
  withText (rest : Bytes) : Bool × Bytes :=
    match rest with
    | 122 :: rest => (true, rest)
    | rest => (false, rest)

def shortForm? (name : String) : Option DumpForm :=
  match name with
  | "a" => some { kind := .named, size := 1 }
  | "b" => some { kind := .octal, size := 1 }
  | "c" => some { kind := .character, size := 1 }
  | "d" => some { kind := .unsigned, size := 2 }
  | "f" => some { kind := .float, size := 4 }
  | "i" => some { kind := .signed, size := 4 }
  | "l" => some { kind := .signed, size := 8 }
  | "o" => some { kind := .octal, size := 2 }
  | "s" => some { kind := .signed, size := 2 }
  | "x" | "h" => some { kind := .hexadecimal, size := 2 }
  | _ => none

def readByteCount? (text : Bytes) : Option Nat := do
  let (base, digits) := match text with
    | Ascii.zero :: 120 :: rest => (16, rest)
    | Ascii.zero :: rest => (if rest = [] then 10 else 8, text)
    | text => (10, text)
  let isOne := fun byte => ((Binary.hexValue? byte).filter (· < base)).isSome
  let found := digits.takeWhile isOne
  if found = [] then none
  let value := found.foldl (fun number byte => number * base + (Binary.hexValue? byte).getD 0) 0
  let suffix := digits.drop found.length
  let factor ← if suffix = ascii "b" then some 512 else sizeFactor? suffix
  return value * factor

/-- The runs of at least so many bytes that can be shown and that a zero byte ends, with their
places.  `run` is the run so far, in reverse. -/
def stringsIn (least : Nat) : Nat → Bytes → Bytes → List (Nat × Bytes)
  | _, _, [] => []
  | place, run, byte :: rest =>
      if Quoting.isShown byte then stringsIn least (place + 1) (byte :: run) rest
      else if byte = 0 ∧ least ≤ run.length then
        (place - run.length, run.reverse) :: stringsIn least (place + 1) [] rest
      else stringsIn least (place + 1) [] rest

def readTogether : Option Nat → Bytes → List Bytes → Run Bytes
  | _, content, [] => return content
  | some 0, content, _ => return content
  | limit, content, name :: rest => do
      match ← readInputUpTo limit name with
      | .ok text => readTogether (limit.map (· - text.length)) (content ++ text) rest
      | .error fault =>
          Run.worry (Quoting.whenNeeded name ++ ascii ": " ++ fault.message)
          readTogether limit content rest

def readEndian (parsed : Parsed) : Run Bool := do
  match parsed.value? "endian" with
  | none => return false
  | some text => return (← Run.choose "--endian" [["little"], ["big"]] text) = "big"

def od : Main := fun arguments => do
  let parsed ← Run.options
    ([valued ["A", "address-radix"], valued ["j", "skip-bytes"], valued ["N", "read-bytes"],
      valued ["t", "format"], flag ["v", "output-duplicates"], perhapsValued ["w", "width"],
      valued ["S"], perhapsValued ["strings"], valued ["endian"], flag ["traditional"]] ++
      ["a", "b", "c", "d", "f", "i", "l", "o", "s", "x", "h"].map fun name => flag [name]) arguments
  let forms ← parsed.given.mapM fun given =>
    match shortForm? given.name, given.name with
    | some form, _ => pure [form]
    | none, "t" =>
        let text := given.argument.getD []
        match readForms text (text.length + 1) text with
        | .ok forms => pure forms
        | .error message => Run.fail message
    | none, _ => pure []
  let forms := match forms.flatten with
    | [] => [{ kind := .octal, size := 2 }]
    | forms => forms
  let count := fun (letter : String) => do
    match parsed.value? letter with
    | none => pure none
    | some text =>
        match readByteCount? text with
        | some value => pure (some value)
        | none =>
            Run.fail (ascii "invalid -" ++ ascii letter ++ ascii " argument " ++ Quoting.plain text)
  let skipped := (← count "j").getD 0
  let limit ← count "N"
  let width ← match parsed.has "w", parsed.value? "w" with
    | true, none => pure 32
    | true, some text => pure ((Bytes.toNat? text).getD 16)
    | false, _ => pure 16
  let address := ((parsed.value? "A").bind (·.head?)).getD 111
  if !(ascii "doxn").contains address then
    Run.fail (ascii "invalid output address radix '" ++ address ::
      ascii "'; it must be one character from [doxn]")
  let bigFirst ← readEndian parsed
  let names := if parsed.operands = [] then [[Ascii.minus]] else parsed.operands
  let content ← readTogether (limit.map (· + skipped)) [] names
  let status ← Run.status
  if status ≠ 0 ∧ content = [] then return status
  if content.length < skipped then Run.fail (ascii "cannot skip past end of combined input")
  let data := content.drop skipped
  let data := match limit with
    | some limit => data.take limit
    | none => data
  let manner : DumpManner := { forms, address, width, all := parsed.has "v", bigFirst }
  if parsed.has "S" ∨ parsed.has "strings" then
    let least ← match (parsed.value? "S").or (parsed.value? "strings") with
      | none => pure 3
      | some text =>
          match readByteCount? text with
          | some value => pure value
          | none => Run.fail (ascii "invalid -S argument " ++ Quoting.plain text)
    for (place, text) in stringsIn least skipped [] data do
      let shownAt := addressText manner place
      Run.sayLine (if shownAt = [] then text else shownAt ++ Ascii.space :: text)
    return ← Run.status
  for line in dumpLines manner (data.length + 1) skipped none false data do Run.say line
  Run.status

/-! Comparing. -/

/-- The first place where two texts differ, counted from one, the line and the bytes; or where the
shorter one ends. -/
inductive Difference where
  | none
  | differing (place line : Nat) (left right : UInt8)
  | ended (first : Bool) (place line : Nat) (lineBegun : Bool)

def firstDifference (line : Nat) (begun : Bool) : Nat → Bytes → Bytes → Difference
  | _, [], [] => .none
  | place, [], _ => .ended true place line begun
  | place, _, [] => .ended false place line begun
  | place, byte :: left, other :: right =>
      if byte ≠ other then .differing (place + 1) line byte other
      else if byte = Ascii.newline then firstDifference (line + 1) false (place + 1) left right
      else firstDifference line true (place + 1) left right

def allDifferences : Nat → Bytes → Bytes → List (Nat × UInt8 × UInt8)
  | place, byte :: left, other :: right =>
      let rest := allDifferences (place + 1) left right
      if byte = other then rest else (place, byte, other) :: rest
  | _, _, _ => []

def visibleByte (byte : UInt8) : Bytes :=
  if 128 ≤ byte then ascii "M-" ++ caretForm (byte - 128) else caretForm byte

def refuseComparison {α : Type} (text : Bytes) : Run α := do
  Run.complain text
  Run.complain (ascii "Try '" ++ (← get).name ++ ascii " --help' for more information.")
  throw 2

def cmp : Main := fun arguments => do
  let parsed ← match ← Run.parse
      [flag ["b", "print-bytes"], valued ["i", "ignore-initial"], flag ["l", "verbose"],
        valued ["n", "bytes"], flag ["s", "quiet", "silent"]] arguments with
    | .ok parsed => pure parsed
    | .error message => refuseComparison message
  let (first, second, skips) ← match parsed.operands with
    | [] => do
        let name := (← get).name
        refuseComparison (ascii "missing operand after " ++ Quoting.plain name)
    | [name] => pure (name, [Ascii.minus], [])
    | first :: second :: skips => pure (first, second, skips)
  let quiet := parsed.has "s"
  let limit := (parsed.value? "n").bind readByteCount?
  let initial := (parsed.value? "i").map (·.splitOn Ascii.colon)
  let skipOf := fun (index : Nat) =>
    match initial, skips[index]? with
    | some [one], _ => (readByteCount? one).getD 0
    | some parts, _ => (readByteCount? (parts.getD index [])).getD 0
    | none, some text => (readByteCount? text).getD 0
    | none, none => 0
  let read := fun (name : Bytes) => do
    match ← readInputUpTo (limit.map (· + max (skipOf 0) (skipOf 1))) name with
    | .ok text => pure text
    | .error fault =>
        if !(quiet && fault == .missing) then
          Run.complain (name ++ ascii ": " ++ fault.message)
        throw 2
  let left ← read first
  let right ← if isStandard first && isStandard second then pure left else read second
  let left := left.drop (skipOf 0)
  let right := right.drop (skipOf 1)
  let (left, right) := match limit with
    | some limit => (left.take limit, right.take limit)
    | none => (left, right)
  let octal := fun (byte : UInt8) =>
    rightAligned 3 ((Nat.toDigits 8 byte.toNat).map Char.toUInt8)
  let found := firstDifference 1 false 0 left right
  let ending := fun (isFirst : Bool) (place line : Nat) (begun withLine : Bool) => do
    if !quiet then
      let name := if isFirst then first else second
      if place = 0 then Run.complain (ascii "EOF on " ++ name ++ ascii " which is empty")
      else
        let position := if !withLine then []
          else if begun then ascii ", in line " ++ Bytes.ofNat line
          else ascii ", line " ++ Bytes.ofNat (line - 1)
        Run.complain (ascii "EOF on " ++ name ++ ascii " after byte " ++ .ofNat place ++ position)
    return 1
  if parsed.has "l" ∧ !quiet then
    let differences := allDifferences 1 left right
    let width := (Bytes.ofNat (max left.length right.length)).length
    for (place, byte, other) in differences do
      let bytes := if parsed.has "b" then
          octal byte ++ Ascii.space :: (visibleByte byte ++
            List.replicate (4 - (visibleByte byte).length) Ascii.space) ++
            Ascii.space :: octal other ++ Ascii.space :: visibleByte other
        else octal byte ++ Ascii.space :: octal other
      Run.sayLine (rightAligned width (.ofNat place) ++ Ascii.space :: bytes)
    if left.length < right.length then ending true left.length 1 true false
    else if right.length < left.length then ending false right.length 1 true false
    else return if differences.isEmpty then 0 else 1
  else
    match found with
    | .none => return 0
    | .differing place line byte other =>
        if !quiet then
          let bytes := if parsed.has "b" then
              ascii " is " ++ octal byte ++ Ascii.space :: visibleByte byte ++
                Ascii.space :: octal other ++ Ascii.space :: visibleByte other
            else []
          let what := if parsed.has "b" then " differ: byte " else " differ: char "
          Run.sayLine (first ++ Ascii.space :: second ++ ascii what ++ .ofNat place ++
            ascii ", line " ++ .ofNat line ++ bytes)
        return 1
    | .ended isFirst place line begun => ending isFirst place line begun true

end Rpn.Tool
