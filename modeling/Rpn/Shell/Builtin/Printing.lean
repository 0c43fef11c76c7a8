import Rpn.Shell.Assign
import Rpn.Shell.Builtin.Variables
import Rpn.Text.Calendar
import Rpn.Text.Printf

/-! Built-in commands that print their arguments.  Only serves the test environment. -/

namespace Rpn.Shell.Builtin

open Host Text

def echoEscapes : Escape.Manner :=
  { zero := true, stop := true }

def echo : Builtin := fun _ _ arguments => do
  let (words, ended) := match arguments with
    | first :: rest => if first = ascii "-n" then (rest, false) else (arguments, true)
    | [] => ([], true)
  let (shown, stopped) := Escape.replace echoEscapes (joinedWords words)
  print (if ended && !stopped then Bytes.line shown else shown)

/-- Whether a word consists of letters of options of `echo` in the extended language. -/
def isEchoOption (word : Bytes) : Bool :=
  match word with
  | Ascii.minus :: first :: rest => (first :: rest).all ((ascii "neE").contains ·)
  | _ => false

def extendedEchoEscapes : Escape.Manner :=
  { zero := true, stop := true, hexadecimal := true, unicode := true, octal := false }

def extendedEcho : Builtin := fun _ _ arguments => do
  let options := arguments.takeWhile isEchoOption
  let words := arguments.drop options.length
  let letters := options.flatten
  let chosen := (letters.filter fun letter => letter = 101 ∨ letter = 69).getLast?
  let usual := (← get).settings.contains (ascii "xpg_echo")
  let escaped := (chosen.map (· == 101)).getD usual
  let (shown, stopped) := if escaped then Escape.replace extendedEchoEscapes (joinedWords words)
    else (joinedWords words, false)
  print (if letters.contains 110 || stopped then shown else Bytes.line shown)

def printfManner : Printf.Manner :=
  { format := {}, argument := echoEscapes, binary := Binary.double, lead := 1
    lengths := false, quote := none }

def backslashed (text : Bytes) : Bytes :=
  if text = [] then ascii "''"
  else if text.any fun byte => byte < 32 || 126 < byte then
    ascii "$'" ++ text.flatMap Parameter.escapedByte ++ ascii "'"
  else
    text.flatMap fun byte =>
      if isNameByte byte || (ascii "%+-./:=@,").contains byte then
        if byte = Ascii.comma then [Ascii.backslash, byte] else [byte]
      else [Ascii.backslash, byte]

def extendedPrintfManner : Printf.Manner :=
  { format := { hexadecimal := true, unicode := true, quote := true }
    argument := { zero := true, stop := true, hexadecimal := true, unicode := true, quote := true }
    binary := Binary.extended, lead := 4, lengths := true, quote := some backslashed }

/-- How times are printed: without a number, or with -1, the current one, and with -2 the one when
the shell began. -/
def timeManner : Run Printf.Manner := do
  let shell ← get
  let now ← Act.look fun _ world => world.now
  let time := fun (format : Bytes) (seconds : Option Int) =>
    let second : Int := Moment.nanosPerSecond
    let moment : Int := match seconds with
      | none | some (-1) => now
      | some (-2) => shell.started
      | some seconds => seconds * second
    Calendar.format (Moment.ofNanoseconds moment)
      (if format = [] then ascii "%X" else format)
  return { extendedPrintfManner with time := some time }

def concernMessage : Printf.Concern → Option Bytes
  | .notNumber text => if text = [] then none else some (text ++ ascii ": expected numeric value")
  | .incomplete text => some (text ++ ascii ": not completely converted")
  | .outOfRange text => some (text ++ ascii ": Numerical result out of range")
  | .trailing _ => none

def refusalMessage : Printf.Refusal → Bytes
  | .directive text => text ++ ascii ": invalid directive"
  | .unfinished _ => ascii "missing format character"
  | .escape => ascii "missing hexadecimal number in escape"
  | .width text => text ++ ascii ": invalid width"

def worry (concerns : List Printf.Concern) : Run Nat := do
  let messages := concerns.filterMap concernMessage
  for message in messages do Run.complain (ascii "printf: " ++ message)
  return if messages.isEmpty then 0 else 1

def printfWith (manner : Printf.Manner) (format : Bytes) (arguments : List Bytes)
    (output : Bytes → Run Nat) : Run Nat := do
  let result := Printf.run manner format arguments
  let worried ← worry result.concerns
  match result.ending with
  | .refused refusal =>
      let _ ← output result.text
      Run.fail (ascii "printf: " ++ refusalMessage refusal) (if (← get).extended then 1 else 2)
  | _ =>
      let status ← output result.text
      return max status worried

def printf : Builtin := fun _ _ arguments => do
  let (_, words) ← optionLetters "" "printf" arguments
  match words with
  | [] => Run.fail (ascii "printf: usage: printf format [arg ...]")
  | format :: arguments => printfWith printfManner format arguments print

/-- Print by a format, or with `-v` set a variable or an element to what would be printed. -/
def extendedPrintf : Builtin := fun _ _ arguments => do
  match arguments with
  | option :: name :: format :: rest =>
      if option = ascii "-v" then
        let (format, rest) := if format = ascii "--" then (rest.headD [], rest.tail)
          else (format, rest)
        let base := name.takeWhile (· != Ascii.openBracket)
        let place ← if base.length < name.length then
            Assign.placeOf base ((name.drop (base.length + 1)).dropLast)
          else pure (name, none)
        printfWith (← timeManner) format rest fun text => do
          Assign.setPlace place false text
          return 0
      else plain arguments
  | arguments => plain arguments
where
  plain (arguments : List Bytes) : Run Nat := do
    let arguments := if arguments.head? = some (ascii "--") then arguments.tail else arguments
    match arguments with
    | [] => Run.fail (ascii "printf: usage: printf [-v var] format [arguments]")
    | format :: rest => printfWith (← timeManner) format rest print

end Rpn.Shell.Builtin
