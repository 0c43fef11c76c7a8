import Rpn.Tool.Process

/-! A tool that makes arguments of commands from its input.  Only serves the test environment. -/

namespace Rpn.Tool

open Host Text

namespace Arguments

/-- The items of a line, and whether blanks at its end join it to the next one. -/
structure ItemLine where
  items : List Bytes
  continued : Bool := false

/-- Read items with quotes.  `lines` are the lines so far and `items` the items of this line, both
in reverse; `part` is the item so far, in reverse. -/
def readQuoted (lines : List ItemLine) (items : List Bytes) (part : Option Bytes) (blank : Bool) :
    Bytes → Except Bytes (List ItemLine)
  | [] =>
      let items := (part.toList.map List.reverse) ++ items
      .ok ((if items = [] then lines else { items := items.reverse } :: lines).reverse)
  | Ascii.backslash :: byte :: rest =>
      readQuoted lines items (some (byte :: part.getD [])) false rest
  | byte :: rest =>
      if byte = Ascii.newline then
        let items := (part.toList.map List.reverse) ++ items
        if items = [] then readQuoted lines [] none false rest
        else readQuoted ({ items := items.reverse, continued := blank } :: lines) [] none false rest
      else if isSpace byte then
        readQuoted lines ((part.toList.map List.reverse) ++ items) none true rest
      else if byte = Ascii.singleQuote ∨ byte = Ascii.doubleQuote then
        let quoted := rest.takeWhile fun other => other != byte && other != Ascii.newline
        let after := rest.drop quoted.length
        if after.head? = some byte then
          readQuoted lines items (some (quoted.reverse ++ part.getD [])) false (after.drop 1)
        else
          let kind := if byte = Ascii.singleQuote then "single" else "double"
          .error (ascii "unmatched " ++ ascii kind ++
            ascii " quote; by default quotes are special to xargs unless you use the -0 option")
      else readQuoted lines items (some (byte :: part.getD [])) false rest
termination_by input => input.length
decreasing_by all_goals simp_all; try omega

def readWholeLines (text : Bytes) : Except Bytes (List Bytes) := do
  let lines := (plainLines text).filter fun line => !(line.all isSpace)
  lines.mapM fun line => do
    let line := line.dropWhile isSpace
    let escaped := line.flatMap fun byte =>
      if isSpace byte then [Ascii.backslash, byte] else [byte]
    let found ← readQuoted [] [] none false (quotedBlanks none escaped)
    return (found.flatMap (·.items)).flatten
where
  quotedBlanks (quote : Option UInt8) : Bytes → Bytes
    | [] => []
    | Ascii.backslash :: byte :: rest =>
        if quote.isSome ∧ isSpace byte then byte :: quotedBlanks quote rest
        else Ascii.backslash :: byte :: quotedBlanks quote rest
    | byte :: rest =>
        match quote with
        | some mark => byte :: quotedBlanks (if byte = mark then none else quote) rest
        | none =>
            if byte = Ascii.singleQuote ∨ byte = Ascii.doubleQuote then
              byte :: quotedBlanks (some byte) rest
            else byte :: quotedBlanks none rest

def joinContinued : List ItemLine → List (List Bytes)
  | [] => []
  | line :: rest =>
      match line.continued, joinContinued rest with
      | true, next :: others => (line.items ++ next) :: others
      | _, others => line.items :: others

/-- The lines before an item that ends all.  With `isOpen` the last line has no line end, and its
last item only counts if it is the first one too. -/
def linesBefore (mark : Bytes) (isOpen : Bool) : List (List Bytes) → List (List Bytes)
  | [] => []
  | line :: rest =>
      let front := line.takeWhile (· ≠ mark)
      let isLast := isOpen ∧ rest = [] ∧ front ≠ [] ∧ front.length + 1 = line.length
      if front = line ∨ isLast then line :: linesBefore mark isOpen rest
      else if front = [] then []
      else [front]

def bundle (count : Nat) : Nat → List (List Bytes) → List (List Bytes)
  | 0, _ => []
  | _, [] => []
  | bound + 1, lists =>
      (lists.take count).flatten :: bundle count bound (lists.drop count)

/-- Divide items so that each part is not longer than a limit, counted with an end mark for each
item.  `room` is what is left in the current part, which is held in reverse. -/
def bySize (limit : Nat) : Nat → List Bytes → List Bytes → List (List Bytes)
  | _, part, [] => if part = [] then [] else [part.reverse]
  | room, part, item :: rest =>
      let size := item.length + 1
      if room < size ∧ part ≠ [] then part.reverse :: bySize limit (limit - size) [item] rest
      else bySize limit (room - size) (item :: part) rest

def replaceAll (old new : Bytes) : Nat → Bytes → Bytes
  | 0, text => text
  | _, [] => []
  | bound + 1, byte :: rest =>
      if old ≠ [] ∧ old.isPrefixOf (byte :: rest) then
        new ++ replaceAll old new bound ((byte :: rest).drop old.length)
      else byte :: replaceAll old new bound rest

def runOne (parsed : Parsed) (command : List Bytes) : Run Unit := do
  if parsed.has "t" then
    Run.note (Bytes.line ([Ascii.space].intercalate (command.map Quoting.whenNeeded)))
  let name := (← get).name
  let first := command.headD []
  let program ← commandProgram (do
      Act.close 0
      let _ ← Act.openPath (ascii "/dev/null") { read := true }
      pure ()) command fun fault =>
    name ++ ascii ": " ++ first ++ ascii ": " ++ fault.message
  Run.flush
  match ← Act.runChild program with
  | .exited 0 => return ()
  | .exited 255 =>
      Run.complain (first ++ ascii ": exited with status 255; aborting")
      throw 124
  | .exited 126 => throw 126
  | .exited 127 => throw 127
  | .exited _ => Run.setStatus 123
  | .killed signal =>
      Run.complain (first ++ ascii ": terminated by signal " ++ .ofNat signal)
      throw 125

end Arguments

open Arguments in
def xargs : Main := fun arguments => do
  let parsed ← Run.options
    [flag ["0", "null"], valued ["a", "arg-file"], valued ["d", "delimiter"], valued ["E"],
      perhapsValued ["e", "eof"], valued ["I"], perhapsValued ["i", "replace"], valued ["L"],
      perhapsValued ["l", "max-lines"], valued ["n", "max-args"], flag ["o", "open-tty"],
      valued ["P", "max-procs"], flag ["p", "interactive"], flag ["r", "no-run-if-empty"],
      valued ["s", "max-chars"], flag ["t", "verbose"], flag ["x", "exit"],
      flag ["show-limits"]] arguments true
  let number := fun (letter : String) => do
    match parsed.value? letter with
    | none => pure none
    | some text =>
        match Bytes.toNat? text with
        | some value => pure (some value)
        | none =>
            Run.fail (ascii "invalid number " ++ Quoting.plain text ++ ascii " for -" ++
              ascii letter ++ ascii " option")
  let command := if parsed.operands = [] then [ascii "echo"] else parsed.operands
  let content ← match parsed.value? "a" with
    | none => readInput [Ascii.minus]
    | some path => readInput path
  let content ← match content with
    | .ok content => pure content
    | .error fault =>
        Run.fail (ascii "Cannot open input file " ++
          Quoting.always ((parsed.value? "a").getD []) ++ ascii ": " ++ fault.message)
  let delimiter? : Option UInt8 := match parsed.last? ["0", "d"] with
    | some "0" => some 0
    | some _ =>
        match (parsed.value? "d").getD [] with
        | [Ascii.backslash, letter] =>
            some (((ascii "abfnrtv0\\").zip ([7, 8, 12, 10, 13, 9, 11, 0, 92] : Bytes)).lookup
              letter |>.getD letter)
        | text => some (text.headD 0)
    | none => none
  let chosen := parsed.last? ["I", "i", "L", "l", "n"]
  let replaced? := match chosen with
    | some "I" => parsed.value? "I"
    | some "i" => some ((parsed.value? "i").getD (ascii "\x7b\x7d"))
    | _ => match parsed.value? "I" with
        | some mark => some mark
        | none => if parsed.has "i" then some ((parsed.value? "i").getD (ascii "\x7b\x7d")) else none
  if replaced?.isSome ∧ parsed.has "n" then
    Run.complain (ascii ("warning: options --max-args and --replace/-I/-i are mutually " ++
      "exclusive, ignoring previous --max-args value"))
  let lines : List (List Bytes) ← match delimiter? with
    | some delimiter =>
        let parts := content.splitOn delimiter
        let parts := if parts.getLast? = some [] then parts.dropLast else parts
        pure (parts.map fun part => [part])
    | none =>
        let read := if replaced?.isSome then (readWholeLines content).map fun items =>
            items.map fun item => [item]
          else (readQuoted [] [] none false content).map joinContinued
        match read with
        | .ok lines => pure lines
        | .error message => Run.fail message
  let ending? := match parsed.value? "E" with
    | some mark => some mark
    | none => parsed.value? "e"
  let lines : List (List Bytes) := match ending? with
    | some mark => linesBefore mark (content.getLast? ≠ some Ascii.newline) lines
    | none => lines
  match replaced? with
  | some mark =>
      for line in lines do
        let item := line.flatten
        let words := command.map fun word => replaceAll mark item (word.length + 1) word
        runOne parsed words
      Run.status
  | none =>
      let implied := if parsed.has "l" then
          some (((parsed.value? "l").bind Bytes.toNat?).getD 1)
        else none
      let lineCount := (← number "L").orElse fun _ => implied
      let argumentCount ← number "n"
      let size := (← number "s").getD 131072
      let used := (command.map fun word => word.length + 1).foldl (· + ·) 0
      let bundles := match chosen, lineCount, argumentCount with
        | some "n", _, some count | _, none, some count =>
            bundle count (lines.flatten.length + 1) (lines.flatten.map fun item => [item])
        | _, some count, _ => bundle count (lines.length + 1) lines
        | _, none, none => bySize (size - used) (size - used) [] lines.flatten
      let parts := bundles.flatMap fun (items : List Bytes) =>
        bySize (size - used) (size - used) [] items
      if parts.isEmpty && !parsed.has "r" then runOne parsed command
      for part in parts do runOne parsed (command ++ part)
      Run.status

end Rpn.Tool
