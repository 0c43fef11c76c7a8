import Rpn.Tool.Options
import Rpn.Tool.Quoting

/-! Tools that only succeed, fail or show their input.  Only serves the test environment. -/

namespace Rpn.Tool

open Host

def succeed : Main := fun _ => return 0

def refuse : Main := fun _ => return 1

def eachInput (names : List Bytes) (use : Bytes → Bytes → Run Unit) : Run Unit := do
  let names := if names = [] then [[Ascii.minus]] else names
  for name in names do
    match ← readInput name with
    | .ok content => use name content
    | .error fault =>
        Run.worry (Quoting.whenNeeded name ++ ascii ": " ++ fault.message)

/-! Joining files. -/

structure CatManner where
  number : Bool
  numberFilled : Bool
  squeeze : Bool
  ends : Bool
  tabs : Bool
  controls : Bool

def caretForm (byte : UInt8) : Bytes :=
  if byte = 127 then ascii "^?"
  else if byte < 32 then [Ascii.caret, byte + 64]
  else [byte]

def shownByte (manner : CatManner) (byte : UInt8) : Bytes :=
  if byte = Ascii.newline then [byte]
  else if byte = Ascii.tab then if manner.tabs then ascii "^I" else [byte]
  else if !manner.controls then [byte]
  else if 128 ≤ byte then ascii "M-" ++ caretForm (byte - 128)
  else caretForm byte

def rightAligned (width : Nat) (text : Bytes) : Bytes :=
  List.replicate (width - text.length) Ascii.space ++ text

/-- Lines as they are shown.  The first number counts lines, and `empty` says that the line before
is empty. -/
def showLines (manner : CatManner) : Nat → Bool → List Bytes → List Bytes
  | _, _, [] => []
  | count, empty, line :: rest =>
      let isEmpty := line == [Ascii.newline]
      if manner.squeeze && empty && isEmpty then showLines manner count true rest
      else
        let numbered := manner.number && !(manner.numberFilled && isEmpty)
        let start := if numbered then rightAligned 6 (.ofNat count) ++ [Ascii.tab] else []
        let body := line.flatMap (shownByte manner)
        let body := if manner.ends && line.getLast? == some Ascii.newline then
            body.dropLast ++ ascii "$\n"
          else body
        (start ++ body) :: showLines manner (if numbered then count + 1 else count) isEmpty rest

def copyBlocks (number : Nat) : Nat → Run (Option Fault)
  | 0 => return none
  | bound + 1 => do
      match ← Act.read number with
      | .error fault => return some fault
      | .ok [] => return none
      | .ok block =>
          Run.say block
          Run.flush
          copyBlocks number bound

def cat : Main := fun arguments => do
  let parsed ← Run.options
    [flag ["A", "show-all"], flag ["b", "number-nonblank"], flag ["e"], flag ["E", "show-ends"],
      flag ["n", "number"], flag ["s", "squeeze-blank"], flag ["t"], flag ["T", "show-tabs"],
      flag ["u"], flag ["v", "show-nonprinting"]] arguments
  let manner : CatManner :=
    { number := parsed.has "n" || parsed.has "b", numberFilled := parsed.has "b"
      squeeze := parsed.has "s"
      ends := parsed.has "E" || parsed.has "A" || parsed.has "e"
      tabs := parsed.has "T" || parsed.has "A" || parsed.has "t"
      controls := parsed.has "v" || parsed.has "A" || parsed.has "e" || parsed.has "t" }
  if parsed.given.all (·.name == "u") then
    let names := if parsed.operands = [] then [[Ascii.minus]] else parsed.operands
    for name in names do
      let complain := fun (fault : Fault) =>
        Run.worry (Quoting.whenNeeded name ++ ascii ": " ++ fault.message)
      match ← openInput name with
      | .error fault => complain fault
      | .ok number =>
          match ← copyBlocks number Act.unbounded with
          | some fault => complain fault
          | none => pure ()
          if number ≠ 0 then Act.close number
    Run.status
  else
    let names := if parsed.operands = [] then [[Ascii.minus]] else parsed.operands
    let mut texts : List Bytes := []
    for name in names do
      match ← readInput name with
      | .ok content => texts := content :: texts
      | .error fault => Run.worry (Quoting.whenNeeded name ++ ascii ": " ++ fault.message)
    let lines := splitLines texts.reverse.flatten
    for line in showLines manner 1 false lines do Run.say line
    Run.status

end Rpn.Tool
