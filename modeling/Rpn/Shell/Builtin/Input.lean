import Rpn.Shell.Builtin.Variables

/-! Reading lines into variables.  Only serves the test environment. -/

namespace Rpn.Shell.Builtin

open Host

structure LineManner where
  raw : Bool := false
  descriptor : Nat := 0
  stop : UInt8 := Ascii.newline
  count : Option Nat := none
  exactly : Bool := false

def readByte (descriptor : Nat) : Run (Option UInt8) := do
  match ← Act.read descriptor 1 with
  | .ok (byte :: _) => return some byte
  | _ => return none

/-- Read a line in reverse.  A backslash takes the meaning from the byte after it and joins lines.
The answer is also whether the line was ended. -/
def readLineLoop (manner : LineManner) : Nat → Nat → List Mark → Run (List Mark × Bool)
  | 0, _, marks => return (marks, false)
  | bound + 1, taken, marks => do
      if manner.count = some taken then return (marks, true)
      else
        match ← readByte manner.descriptor with
        | none => return (marks, false)
        | some byte =>
            if byte = 0 ∧ manner.stop ≠ 0 then readLineLoop manner bound taken marks
            else if byte = manner.stop ∧ !manner.exactly then return (marks, true)
            else if byte = Ascii.backslash ∧ !manner.raw then
              match ← readByte manner.descriptor with
              | none => return (marks, false)
              | some escaped =>
                  if escaped = Ascii.newline then readLineLoop manner bound taken marks
                  else
                    readLineLoop manner bound (taken + 1)
                      ({ byte := escaped, quoted := true } :: marks)
            else
              readLineLoop manner bound (taken + 1)
                ({ byte, quoted := false, divisible := true } :: marks)

def readLine (manner : LineManner) : Run (List Mark × Bool) := do
  let (marks, ended) ← readLineLoop manner Act.unbounded 0 []
  return (marks.reverse, ended)

/-! Dividing a line among variables. -/

def separates (separators : Bytes) (mark : Mark) : Bool :=
  mark.divisible && separators.contains mark.byte

def separatesAsBlank (separators : Bytes) (mark : Mark) : Bool :=
  separates separators mark && Field.Split.isGap mark.byte

def dropSeparator (separators : Bytes) (marks : List Mark) : List Mark :=
  let rest := marks.dropWhile (separatesAsBlank separators)
  let rest := match rest with
    | mark :: others => if separates separators mark then others else rest
    | [] => []
  rest.dropWhile (separatesAsBlank separators)

/-- What the last variable gets: a single field without what ends it, or all that is left without
the blanks at the end. -/
def lastField (separators : Bytes) (marks : List Mark) : List Mark :=
  let field := marks.takeWhile (!separates separators ·)
  let rest := marks.drop field.length
  if (dropSeparator separators rest).isEmpty then field
  else (marks.reverse.dropWhile (separatesAsBlank separators)).reverse

def divideLine (separators : Bytes) : Nat → List Mark → List Bytes
  | 0, _ => []
  | 1, marks => [Mark.text (lastField separators marks)]
  | count + 2, marks =>
      let field := marks.takeWhile (!separates separators ·)
      let rest := dropSeparator separators (marks.drop field.length)
      Mark.text field :: divideLine separators (count + 1) rest

def assignLine (names : List Bytes) (marks : List Mark) : Run Unit := do
  let separators ← Run.fieldSeparators
  let marks := marks.dropWhile (separatesAsBlank separators)
  for (name, value) in names.zip (divideLine separators names.length marks) do
    Run.setVariable name value

def read : Builtin := fun _ _ arguments => do
  let (raw, names) ← options false arguments
  if names = [] then Run.fail (ascii "read: arg count")
  for name in names do checkName name
  let (marks, ended) ← readLine { raw }
  assignLine names marks
  return if ended then 0 else 1
where
  options (raw : Bool) : List Bytes → Run (Bool × List Bytes)
    | [] => return (raw, [])
    | word :: rest => do
        if word = ascii "-r" then options true rest
        else if word = ascii "--" then return (raw, rest)
        else if word = ascii "-p" then
          match rest with
          | prompt :: rest =>
              let _ ← Run.write 2 prompt
              options raw rest
          | [] => Run.fail (ascii "read: No arg for -p option")
        else
          match word with
          | Ascii.minus :: letter :: _ =>
              Run.fail (ascii "read: Illegal option -" ++ [letter])
          | _ => return (raw, word :: rest)

/-! The same in the extended language. -/

structure ReadOptions where
  manner : LineManner := {}
  array : Option Bytes := none
  prompt : Bytes := []

def readOptions (options : ReadOptions) : Nat → List Bytes → Run (ReadOptions × List Bytes)
  | 0, words => return (options, words)
  | _, [] => return (options, [])
  | bound + 1, word :: rest => do
      match word with
      | Ascii.minus :: letter :: more =>
          if letter = Ascii.minus then return (options, rest)
          else
            let again := if more = [] then rest else (Ascii.minus :: more) :: rest
            let withArgument := fun (use : Bytes → Run ReadOptions) => do
              match more, rest with
              | [], argument :: rest => readOptions (← use argument) bound rest
              | [], [] => Run.fail (ascii "read: option requires an argument")
              | argument, rest => readOptions (← use argument) bound rest
            let manner := options.manner
            match Char.ofNat letter.toNat with
            | 'r' => readOptions { options with manner := { manner with raw := true } } bound again
            | 's' | 'e' => readOptions options bound again
            | 'a' => withArgument fun text => return { options with array := some text }
            | 'p' => withArgument fun text => return { options with prompt := text }
            | 't' | 'i' => withArgument fun _ => return options
            | 'd' => withArgument fun text =>
                return { options with manner := { manner with stop := text.headD 0 } }
            | 'u' => withArgument fun text =>
                return { options with manner := { manner with descriptor := ← natural text } }
            | 'n' => withArgument fun text =>
                return { options with manner := { manner with count := some (← natural text) } }
            | 'N' => withArgument fun text =>
                return { options with
                  manner := { manner with count := some (← natural text), exactly := true } }
            | _ => Run.fail (ascii "read: " ++ word ++ ascii ": invalid option")
      | _ => return (options, word :: rest)

def extendedRead : Builtin := fun _ _ arguments => do
  let (options, names) ← readOptions {} (arguments.flatten.length + arguments.length + 1) arguments
  let (marks, ended) ← readLine options.manner
  match options.array, names with
  | some name, _ =>
      let separators ← Run.fieldSeparators
      let found := fields separators (marks.map .mark)
      Run.setValue name (.ofTexts (found.map Mark.text))
  | none, [] => Run.setVariable (ascii "REPLY") (Mark.text marks)
  | none, names =>
      if options.manner.exactly then Run.setVariable (names.headD []) (Mark.text marks)
      else assignLine names marks
  return if ended then 0 else 1

/-- How lines are read into an array: from which descriptor, up to which byte, whether that is
dropped, how many are skipped and taken, the first index if the array is kept, and a command that
runs after each so many lines. -/
structure LinesManner where
  descriptor : Nat := 0
  stop : UInt8 := Ascii.newline
  trim : Bool := false
  skip : Nat := 0
  count : Nat := 0
  origin : Option Nat := none
  callback : Option Bytes := none
  quantum : Nat := 5000
  name : Bytes := ascii "MAPFILE"

def linesOptions (options : LinesManner) : Nat → List Bytes → Run LinesManner
  | 0, _ => return options
  | _, [] => return options
  | bound + 1, word :: rest => do
      match word with
      | Ascii.minus :: letter :: more =>
          if letter = Ascii.minus then
            return { options with name := (rest.head?).getD options.name }
          else if letter = 116 then
            linesOptions { options with trim := true } bound
              (if more = [] then rest else (Ascii.minus :: more) :: rest)
          else
            let (argument, rest) := if more = [] then (rest.headD [], rest.tail) else (more, rest)
            let next := fun (options : LinesManner) => linesOptions options bound rest
            match Char.ofNat letter.toNat with
            | 'd' => next { options with stop := argument.headD 0 }
            | 'n' => next { options with count := ← natural argument }
            | 's' => next { options with skip := ← natural argument }
            | 'O' => next { options with origin := some (← natural argument) }
            | 'u' => next { options with descriptor := ← natural argument }
            | 'C' => next { options with callback := some argument }
            | 'c' => next { options with quantum := max 1 (← natural argument) }
            | _ => Run.fail (ascii "mapfile: " ++ word ++ ascii ": invalid option")
      | name => return { options with name }

def readLinesFrom (self : Executor) (manner : LinesManner) : Nat → Nat → Run Unit
  | 0, _ => return ()
  | bound + 1, index => do
      if manner.count ≠ 0 ∧ manner.count ≤ index then return ()
      else
        let (marks, ended) ←
          readLine { raw := true, descriptor := manner.descriptor, stop := manner.stop }
        let text := Mark.text marks
        if text = [] ∧ !ended then return ()
        else
          let line := if ended ∧ !manner.trim then text ++ [manner.stop] else text
          let number := index + manner.origin.getD 0
          match manner.callback with
          | some command =>
              if (index + 1) % manner.quantum = 0 then
                self.text {} (command ++ Ascii.space :: Bytes.ofNat number ++ Ascii.space ::
                  Parameter.quotedForm line)
          | none => pure ()
          Expansion.setElement manner.name number line
          if ended then readLinesFrom self manner bound (index + 1) else return ()

def readLines : Builtin := fun self _ arguments => do
  let manner ← linesOptions {} (arguments.flatten.length + arguments.length + 1) arguments
  if manner.origin.isNone then Run.setValue manner.name (.list [])
  for _ in List.range manner.skip do
    let _ ← readLine { raw := true, descriptor := manner.descriptor, stop := manner.stop }
  readLinesFrom self manner Act.unbounded 0
  return 0

end Rpn.Shell.Builtin
