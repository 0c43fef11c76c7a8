import Rpn.Tool.Entry
import Rpn.Tool.Lines

/-! Tools that divide a file into several ones.  Only serves the test environment. -/

namespace Rpn.Tool

open Host Text

namespace Split

/-! Names of the pieces. -/

/-- How pieces are named: by letters of an alphabet, counted from `start`.  With `growing` the names
become longer before they run out. -/
structure Naming where
  base : Bytes := ascii "x"
  alphabet : Bytes := ascii "abcdefghijklmnopqrstuvwxyz"
  length : Nat := 2
  growing : Bool := true
  start : Nat := 0
  ending : Bytes := []

def letters (alphabet : Bytes) : Nat → Nat → Bytes
  | 0, _ => []
  | length + 1, number =>
      letters alphabet length (number / alphabet.length) ++
        [alphabet.getD (number % alphabet.length) 0]

/-- The letters of a number that grow: names that begin with the last letter are left to longer
ones. -/
def growingLetters (alphabet : Bytes) : Nat → Nat → Nat → Bytes
  | 0, length, number => letters alphabet length number
  | bound + 1, length, number =>
      let count := (alphabet.length - 1) * Nat.pow alphabet.length (length - 1)
      if number < count then letters alphabet length number
      else
        alphabet.getD (alphabet.length - 1) 0 ::
          growingLetters alphabet bound (length + 1) (number - count)

def Naming.name? (naming : Naming) (index : Nat) : Option Bytes :=
  let number := naming.start + index
  if naming.growing then
    some (naming.base ++ growingLetters naming.alphabet (number + 1) naming.length number ++
      naming.ending)
  else if number < Nat.pow naming.alphabet.length naming.length then
    some (naming.base ++ letters naming.alphabet naming.length number ++ naming.ending)
  else none

/-! Pieces. -/

def records (separator : UInt8) (text : Bytes) : List Bytes :=
  let parts := text.splitOn separator
  let last := parts.getLastD []
  parts.dropLast.map (· ++ [separator]) ++ (if last = [] then [] else [last])

def groupsOf {α : Type} (count : Nat) : Nat → List α → List (List α)
  | 0, _ => []
  | _, [] => []
  | bound + 1, items => items.take count :: groupsOf count bound (items.drop count)

/-- Pieces of at most so many bytes that hold whole records, unless one is longer. -/
def byLineBytes (separator : UInt8) (size : Nat) : Nat → Bytes → List Bytes
  | 0, _ => []
  | _, [] => []
  | bound + 1, text =>
      let window := text.take size
      if window.length < size then [text]
      else
        let tail := (window.reverse.takeWhile (· != separator)).length
        let length := if tail = window.length then size else size - tail
        text.take length :: byLineBytes separator size bound (text.drop length)

def byEqualBytes (count : Nat) (text : Bytes) : List Bytes :=
  let size := max text.length count / count
  (List.range count).map fun index =>
    if index + 1 = count then text.drop (index * size) else (text.drop (index * size)).take size

inductive Rule where
  | lines (count : Nat)
  | bytes (size : Nat)
  | lineBytes (size : Nat)
  | chunks (count : Nat)

def Rule.pieces (separator : UInt8) (text : Bytes) : Rule → List Bytes
  | .lines count =>
      (groupsOf count (text.length + 1) (records separator text)).map List.flatten
  | .bytes size => groupsOf size (text.length + 1) text
  | .lineBytes size => byLineBytes separator size (text.length + 1) text
  | .chunks count => byEqualBytes count text

/-! Options. -/

def positive (what : String) (read? : Bytes → Option Nat) (text : Bytes) : Run Nat := do
  let complaint := ascii "invalid " ++ ascii what ++ ascii ": " ++ Quoting.plain text
  match read? text with
  | none => Run.fail complaint
  | some 0 => Run.fail (complaint ++ ascii ": Numerical result out of range")
  | some number => return number

def modernWord (argument : Bytes) : Bytes :=
  match argument with
  | Ascii.minus :: digits =>
      if digits ≠ [] ∧ digits.all isDigit then ascii "-l" ++ digits else argument
  | _ => argument

def choices : List Choice :=
  [ valued ["a", "suffix-length"], valued ["additional-suffix"], valued ["b", "bytes"],
    valued ["C", "line-bytes"], flag ["d"], perhapsValued ["numeric-suffixes"], flag ["x"],
    perhapsValued ["hex-suffixes"], flag ["e", "elide-empty-files"],
    valued ["l", "lines"], valued ["n", "number"], valued ["t", "separator"],
    flag ["u", "unbuffered"] ]

def ruleOf (parsed : Parsed) : Run Rule := do
  let given := parsed.given.filter fun given => ["b", "C", "l", "n"].contains given.name
  match given with
  | [] => return .lines 1000
  | [one] =>
      let text := one.argument.getD []
      match one.name with
      | "n" => return .chunks (← positive "number of chunks" Bytes.toNat? text)
      | "l" => return .lines (← positive "number of lines" Bytes.toNat? text)
      | "b" => return .bytes (← positive "number of bytes" readCount? text)
      | _ => return .lineBytes (← positive "number of bytes" readCount? text)
  | _ => Run.failWithHint (ascii "cannot split in more than one way")

def lettersNeeded (size : Nat) : Nat → Nat → Nat
  | 0, _ => 1
  | bound + 1, last => if last < size then 1 else lettersNeeded size bound (last / size) + 1

def namingOf (parsed : Parsed) (rule : Rule) (base : Option Bytes) : Run Naming := do
  let kind := parsed.given.findSome? fun given =>
    if ["d", "numeric-suffixes"].contains given.name then
      some (ascii "0123456789", given.argument)
    else if ["x", "hex-suffixes"].contains given.name then
      some (ascii "0123456789abcdef", given.argument)
    else none
  let ending := (parsed.value? "additional-suffix").getD []
  if ending.contains Ascii.slash then
    Run.failWithHint (ascii "invalid suffix " ++ Quoting.plain ending ++
      ascii ", contains directory separator")
  let naming : Naming := { base := base.getD (ascii "x"), ending }
  let naming := match kind with
    | some (alphabet, _) => { naming with alphabet }
    | none => naming
  let startText := kind.bind (·.2)
  let start : Nat ← match startText with
    | none => pure 0
    | some text =>
        let digits := text.map fun byte => naming.alphabet.idxOf? byte
        if text = [] ∨ digits.any (·.isNone) then
          Run.failWithHint (Quoting.plain text ++ ascii ": invalid start value for " ++
            ascii (if naming.alphabet.length = 16 then "hexadecimal" else "numerical") ++
            ascii " suffix")
        else
          pure (digits.foldl (fun sum digit => sum * naming.alphabet.length + digit.getD 0) 0)
  let count? := match rule with
    | .chunks count => some count
    | _ => none
  let needed := match count? with
    | some count =>
        let last := count - 1 + (if start < count then start else 0)
        lettersNeeded naming.alphabet.length 64 last
    | none => 0
  let growing := startText.isNone && count?.isNone
  match parsed.value? "a" with
  | none => return { naming with start, growing, length := max 2 needed }
  | some text =>
      match (Bytes.toNat? text) with
      | none =>
          Run.fail (ascii "invalid suffix length: " ++ Quoting.plain text)
      | some 0 => return { naming with start, growing, length := max 2 needed }
      | some length =>
          if length < needed then
            Run.fail (ascii "the suffix length needs to be at least " ++ .ofNat needed)
          return { naming with start, growing := false, length }

def separatorOf (parsed : Parsed) : Run UInt8 := do
  match parsed.value? "t" with
  | none => return Ascii.newline
  | some [] => Run.fail (ascii "empty record separator")
  | some [byte] => return byte
  | some text =>
      if text = ascii "\\0" then return 0
      else Run.fail (ascii "multi-character separator " ++ Quoting.plain text)

def writePiece (name piece : Bytes) : Run Unit := do
  match ← Act.openPath name { write := true, create := true, truncate := true } with
  | .error fault => Run.fail (name ++ ascii ": " ++ fault.message)
  | .ok number =>
      match ← Act.write number piece with
      | .ok () => Act.close number
      | .error fault => Run.fail (name ++ ascii ": " ++ fault.message)

end Split

open Split in
def split : Main := fun arguments => do
  let parsed ← Run.options choices (arguments.map modernWord)
  let (file, base) ← match parsed.operands with
    | [] => pure ([Ascii.minus], none)
    | [file] => pure (file, none)
    | [file, base] => pure (file, some base)
    | _ :: _ :: extra :: _ => Run.failWithHint (ascii "extra operand " ++ Quoting.plain extra)
  let rule ← ruleOf parsed
  let separator ← separatorOf parsed
  let naming ← namingOf parsed rule base
  let number ← match ← openInput file with
    | .ok number => pure number
    | .error fault =>
        Run.fail (ascii "cannot open " ++ Quoting.always file ++ ascii " for reading: " ++
          fault.message)
  let text ← match ← Act.readAll number with
    | .ok text => pure text
    | .error fault => Run.fail (Quoting.whenNeeded file ++ ascii ": " ++ fault.message)
  let mut index := 0
  for piece in rule.pieces separator text do
    if !(piece.isEmpty && parsed.has "e") then
      match naming.name? index with
      | none => Run.fail (ascii "output file suffixes exhausted")
      | some name =>
          index := index + 1
          if !isStandard file then
            if ← sameNode file name true then
              Run.fail (Quoting.always name ++ ascii " would overwrite input; aborting")
          writePiece name piece
  Run.status

/-! Dividing at lines. -/

namespace LineSplit

/-- The number of a line before which a piece ends, and how often its multiples follow; `none` is as
often as possible. -/
structure Mark where
  number : Nat
  again : Option Nat := some 0

structure Manner where
  base : Bytes
  digits : Nat
  keep : Bool
  quiet : Bool
  dropEmpty : Bool
  dropMatched : Bool

/-- Where the work stands: the lines that are left and the number of the first of them, and the
names of the finished pieces. -/
structure Progress where
  left : List Bytes
  first : Nat := 1
  made : List Bytes := []

abbrev Work := StateT Progress (ExceptT Unit Run)

def pieceName (manner : Manner) (index : Nat) : Bytes :=
  let text := Bytes.ofNat index
  manner.base ++ List.replicate (manner.digits - text.length) Ascii.zero ++ text

/-- Take some lines and make a piece of them. -/
def putPiece (manner : Manner) (count : Nat) : Work Unit := do
  let progress ← get
  let text := (progress.left.take count).flatten
  set { progress with left := progress.left.drop count, first := progress.first + count }
  if !(text.isEmpty && manner.dropEmpty) then
    let name := pieceName manner progress.made.length
    (Split.writePiece name text : Run Unit)
    modify fun progress => { progress with made := name :: progress.made }
    if !manner.quiet then (Run.sayLine (.ofNat text.length) : Run Unit)

def performMark (manner : Manner) (mark : Mark) (repetition : Nat) : Work Unit := do
  let progress ← get
  let failing : Work Unit := do
    (Run.complain (Quoting.plain (.ofNat mark.number) ++ ascii ": line number out of range" ++
      (if repetition = 0 then [] else ascii " on repetition " ++ .ofNat repetition)) : Run Unit)
    if !manner.keep then
      for name in (← get).made do
        let _ ← (unlinkPath name : Act _)
    throwThe Unit ()
  if progress.left = [] ∧ progress.first = 1 then
    (Split.writePiece (pieceName manner 0) [] : Run Unit)
    (Run.complain (ascii "input disappeared") : Run Unit)
    throwThe Unit ()
  let count := mark.number * (repetition + 1) - progress.first
  putPiece manner count
  if progress.left.length < count ∨ (progress.left = [] ∧ manner.dropMatched) then failing
  if manner.dropMatched then
    modify fun progress =>
      { progress with left := progress.left.drop 1, first := progress.first + 1 }
  else if (← get).left = [] then failing

def performMarks (manner : Manner) (mark : Mark) : Nat → Nat → Work Unit
  | 0, _ => return ()
  | bound + 1, repetition => do
      if mark.again.all (repetition ≤ ·) then
        performMark manner mark repetition
        performMarks manner mark bound (repetition + 1)

def performAll (manner : Manner) (marks : List Mark) : Work Unit := do
  let size := (← get).left.length + 2
  for mark in marks do
    performMarks manner mark (max size (mark.again.getD 0 + 1)) 0
  putPiece manner (← get).left.length

/-! Reading marks. -/

def withCounts : List Bytes → List (Bytes × Option Bytes)
  | [] => []
  | [argument] => [(argument, none)]
  | argument :: next :: rest =>
      if next.head? = some Ascii.openBrace then (argument, some next.tail) :: withCounts rest
      else (argument, none) :: withCounts (next :: rest)

/-- Read the marks.  `last` is the line number that came last. -/
def readMarks : Nat → List (Bytes × Option Bytes) → Run (List Mark)
  | _, [] => return []
  | last, (argument, count) :: rest => do
      let number ← match Bytes.toNat? argument with
        | none => Run.fail (Quoting.plain argument ++ ascii ": invalid pattern")
        | some 0 => Run.fail (argument ++ ascii ": line number must be greater than zero")
        | some number => pure number
      if number < last then
        Run.fail (ascii "line number " ++ Quoting.plain argument ++
          ascii " is smaller than preceding line number, " ++ .ofNat last)
      if number = last then
        Run.complain (ascii "warning: line number " ++ Quoting.plain argument ++
          ascii " is the same as preceding line number")
      let again ← match count with
        | none => pure (some 0)
        | some count =>
            if count = ascii "*\x7d" then pure none
            else
              match Bytes.toNat? count.dropLast with
              | some count => pure (some count)
              | none =>
                  Run.fail (Quoting.plain (Ascii.openBrace :: count.dropLast) ++
                    ascii "\x7d: integer required between '\x7b' and '\x7d'")
      return { number, again } :: (← readMarks number rest)

end LineSplit

open LineSplit in
def csplit : Main := fun arguments => do
  let parsed ← Run.options
    [valued ["f", "prefix"], flag ["k", "keep-files"],
      flag ["suppress-matched"], valued ["n", "digits"], flag ["s", "q", "quiet", "silent"],
      flag ["z", "elide-empty-files"]] arguments
  let digits ← match parsed.value? "n" with
    | none => pure 2
    | some text =>
        match Bytes.toNat? text with
        | some digits => pure digits
        | none => Run.fail (ascii "invalid number: " ++ Quoting.plain text)
  match parsed.operands with
  | [] => Run.failWithHint (ascii "missing operand")
  | [file] => Run.failWithHint (ascii "missing operand after " ++ Quoting.plain file)
  | file :: texts =>
      let number ← match ← openInput file with
        | .ok number => pure number
        | .error fault =>
            Run.fail (ascii "cannot open " ++ Quoting.always file ++ ascii " for reading: " ++
              fault.message)
      let marks ← readMarks 0 (withCounts texts)
      let text ← match ← Act.readAll number with
        | .ok text => pure text
        | .error fault =>
            if !parsed.has "s" then Run.sayLine (ascii "0")
            Run.fail (ascii "read error: " ++ fault.message)
      let manner : LineSplit.Manner :=
        { base := (parsed.value? "f").getD (ascii "xx"), digits
          keep := parsed.has "k", quiet := parsed.has "s", dropEmpty := parsed.has "z"
          dropMatched := parsed.has "suppress-matched" }
      match ← ((performAll manner marks).run { left := splitLines text }).run with
      | .ok _ => return 0
      | .error _ => return 1

end Rpn.Tool
